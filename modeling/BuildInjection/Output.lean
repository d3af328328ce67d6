import BuildInjection.Injection.Summary

/-!
# Output

What a run leaves behind: the project as JSON, and the configuration of the EAR plugin as XML if it
is a tree.  The files go to a storage one after the other, and the first fault ends the writing.
-/

namespace BuildInjection

/-- A place for files, in a state of type `σ`. -/
structure Storage (σ : Type) where
  /-- Write a text under a name. -/
  write : String → String → σ → Except IoFault Unit × σ

namespace Output

/-- The name of the file with the project. -/
def projectFile : String := "project.json"

/-- The name of the file with the configuration of the EAR plugin. -/
def configurationFile : String := "ear-configuration.xml"

/-- The files that a project gives, in order, each with its text. -/
def files (p : Project) : List (String × String) :=
  (projectFile, p.toJson.pretty) ::
    ((p.pluginTree? Target.groupId Target.artifactId).map fun t =>
      (configurationFile, t.render)).toList

/-- Write files in order, up to the first fault; the names of the files if there is none. -/
def writeAll {σ : Type} (storage : Storage σ) :
    List (String × String) → σ → Logged (Except Error (List String) × σ)
  | [], s => pure (.ok [], s)
  | (name, text) :: files, s =>
    match storage.write name text s with
    -- the files before this one stay written
    | (.error fault, s) => pure (.error (.io fault), s)
    | (.ok (), s) => do
      Logged.log (.saved name)
      let (names, s) ← writeAll storage files s
      pure (names.map (name :: ·), s)

/-- Write the files that a project gives. -/
def write {σ : Type} (storage : Storage σ) (p : Project) (s : σ) :
    Logged (Except Error (List String) × σ) :=
  writeAll storage (files p) s

end Output

/-- What a run of goals on a project came to. -/
structure Report where
  /-- The project after the run. -/
  project : Project
  results : List GoalResult
  /-- The names of the files that were written. -/
  written : List String

namespace Sequence

/-- Run goals on a project and write the output to a storage, or nothing if there is none. -/
def runAndWrite {σ : Type} (steps : List Step) (p : Project) (storage : Option (Storage σ))
    (s : σ) : Logged (Except Error Report × σ) := do
  Logged.log (.running steps.length p.artifactId)
  let (results, h) ← run steps (.ofProject p)
  let after := h.updateProject p
  match results with
  -- nothing is written where a goal has failed
  | .error e => pure (.error e, s)
  | .ok results =>
    match storage with
    | none => do
      Logged.log .dryRun
      pure (.ok ⟨after, results, []⟩, s)
    | some storage => do
      let (written, s) ← Output.write storage after s
      pure (written.map (⟨after, results, ·⟩), s)

end Sequence

/-! ## A storage in memory -/

/-- The files of a storage in memory, and the number of times it was written to. -/
structure MemoryFiles where
  files : List (String × String) := []
  writes : Nat := 0

/-- A storage in memory whose write of the given number fails, counted from one. -/
def Storage.memory (failAt : Nat) : Storage MemoryFiles where
  write name text s :=
    if s.writes + 1 = failAt then (.error (.other "disk full"), { s with writes := s.writes + 1 })
    else (.ok (), ⟨s.files ++ [(name, text)], s.writes + 1⟩)

end BuildInjection
