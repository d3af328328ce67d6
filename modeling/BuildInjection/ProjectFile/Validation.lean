import BuildInjection.Check
import BuildInjection.ProjectFile.Basic

/-!
# Validation of project files

The checks that a project file has to pass before anything is run on it: texts that may not be
blank, identifiers that may not occur twice, and goals that have to exist.
-/

namespace BuildInjection.ProjectFile

/-- Carry out a check on each of some values, up to the first one that fails. -/
def checkAll {α : Type} (check : α → Except Error Unit) : List α → Except Error Unit
  | [] => .ok ()
  | a :: as => (check a).bind fun _ => checkAll check as

/-- The coordinates are not blank. -/
def checkCoordinates (c : Coordinates) : Except Error Unit := do
  Check.nonBlank "project.group_id" c.groupId
  Check.nonBlank "project.artifact_id" c.artifactId
  Check.nonBlank "project.version" c.version

/-- The identifiers of a plugin are not blank. -/
def checkPlugin (p : PluginEntry) : Except Error Unit := do
  Check.nonBlank "build_plugins.group_id" p.groupId
  Check.nonBlank "build_plugins.artifact_id" p.artifactId

/-- The names of the goals that are run by default. -/
def goalNames (f : ProjectFile) : List String :=
  (f.inject.bind (·.goals)).getD []

/-- Check a project file. -/
def validate (f : ProjectFile) : Except Error Unit := do
  checkCoordinates f.project
  -- a blank identifier is reported rather than a repeated one
  checkAll (Check.nonBlank "profiles.id") (f.profiles.map (·.id))
  Check.unique "profiles.id" (f.profiles.map (·.id))
  checkAll (Check.oneOf "inject.goals" · Goal.names) f.goalNames
  checkAll checkPlugin f.plugins

/-- The goal of a name, where `setting` is where the name stands. -/
def goalOfName (setting name : String) : Except Error Goal :=
  match Goal.ofName? name with
  | some g => .ok g
  | none => .error (.invalid setting name (.unknownGoal name))

/-- The goals that are run by default. -/
def goals (f : ProjectFile) : Except Error (List Goal) :=
  -- the first name that is not known ends the reading
  f.goalNames.mapM (goalOfName "inject.goals")

/-- The key prefix of a goal by default. -/
def prefixFor (f : ProjectFile) : Goal → Option String
  | .dependencies => f.inject.bind (·.dependencyPrefix)
  | .earModules => f.inject.bind (·.earModulePrefix)

end BuildInjection.ProjectFile
