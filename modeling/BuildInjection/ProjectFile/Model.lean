import BuildInjection.ConfigTree.Reader
import BuildInjection.Log.Logged
import BuildInjection.Project
import BuildInjection.ProjectFile.Basic
import BuildInjection.Toml.Printer

/-!
# The project of a project file

The build model that a project file describes.  Properties have to be texts, and the configuration
of a plugin becomes a tree where it can be read as one.
-/

namespace BuildInjection

namespace ProfileEntry

/-- The name of a property in messages. -/
def propertyName (profile key : String) : String := s!"profiles.{profile}.properties.{key}"

/-- Add entries to properties; each of them has to be a text. -/
def addProperties (profile : String) : Properties → Toml.Entries → Except Error Properties
  | m, [] => .ok m
  | m, (key, .string s) :: es => addProperties profile (m.insert key s) es
  -- a value of another kind ends the reading
  | _, (key, v) :: _ => .error (.invalid (propertyName profile key) v.text .notAString)

/-- The profile that an entry describes; it is active unless the entry says otherwise. -/
def toProfile (p : ProfileEntry) : Except Error Profile :=
  (addProperties p.id .empty (p.properties.getD [])).map fun m => ⟨p.id, p.active.getD true, m⟩

end ProfileEntry

namespace PluginEntry

/-- The configuration that a text gives: a tree, or the text itself where it is none. -/
def configurationOf (s : String) : Configuration :=
  match ConfigTree.parse? s with
  | some t => .tree t
  | none => .raw s

/-- The plugin that an entry describes. -/
def toPlugin (p : PluginEntry) : Plugin :=
  -- a plugin without a text has no configuration at all
  ⟨p.groupId, p.artifactId, p.version, p.configuration.map configurationOf⟩

/-- What is reported on the configuration of a plugin. -/
def events (p : PluginEntry) : List Event :=
  match p.toPlugin.configuration with
  | some (.raw _) => [.notATree p.groupId p.artifactId]
  | _ => []

end PluginEntry

namespace ProjectFile

/-- The project that a project file describes. -/
def toProject (f : ProjectFile) : Logged (Except Error Project) :=
  match f.profiles.mapM (·.toProfile) with
  -- plugins are not reported on where a property is refused
  | .error e => pure (.error e)
  | .ok profiles => do
    Logged.logAll (f.plugins.flatMap (·.events))
    pure (.ok {
      groupId := f.project.groupId
      artifactId := f.project.artifactId
      version := f.project.version
      profiles
      dependencies := f.dependencies
      plugins := f.plugins.map (·.toPlugin) })

end ProjectFile

end BuildInjection
