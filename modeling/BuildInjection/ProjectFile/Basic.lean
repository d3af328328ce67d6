import BuildInjection.Environment
import BuildInjection.Error
import BuildInjection.Goal
import BuildInjection.Dependency
import BuildInjection.ProjectFile.Schema
import BuildInjection.Text.Utf8
import BuildInjection.Toml.DateTable

/-!
# Project files

A project file is a TOML document that describes a project: its coordinates, its profiles, its
dependencies and plugins, and what is to be injected by default.  Texts in it may refer to
environment variables.
-/

namespace BuildInjection

/-- The coordinates of a project. -/
structure Coordinates where
  groupId : String
  artifactId : String
  version : String

/-- What is to be injected unless the command line says otherwise. -/
structure InjectionDefaults where
  goals : Option (List String) := none
  dependencyPrefix : Option String := none
  earModulePrefix : Option String := none

/-- A profile of a project file; its properties may be of any kind. -/
structure ProfileEntry where
  id : String
  active : Option Bool := none
  properties : Option Toml.Entries := none

/-- A plugin of a project file, with the text of its configuration. -/
structure PluginEntry where
  groupId : String
  artifactId : String
  version : Option String := none
  configuration : Option String := none

/-- A project file. -/
structure ProjectFile where
  project : Coordinates
  inject : Option InjectionDefaults := none
  profiles : List ProfileEntry := []
  dependencies : List Dependency := []
  plugins : List PluginEntry := []

open Schema

/-! ## Reading the records -/

namespace Coordinates

/-- Coordinates that are being read. -/
structure Draft where
  groupId : Option String := none
  artifactId : Option String := none
  version : Option String := none

/-- The fields of coordinates. -/
def fields : List (RecordField Draft) := [
  field "group_id" text ({ · with groupId := some · }),
  field "artifact_id" text ({ · with artifactId := some · }),
  field "version" text ({ · with version := some · })]

/-- Read coordinates. -/
def decode (v : Toml.Value) : Except Fault Coordinates := do
  let d ← record "ProjectInfo" fields {} v
  return ⟨← required "group_id" d.groupId, ← required "artifact_id" d.artifactId,
    ← required "version" d.version⟩

end Coordinates

namespace InjectionDefaults

/-- The fields of the defaults. -/
def fields : List (RecordField InjectionDefaults) := [
  field "goals" (list text) ({ · with goals := some · }),
  field "dependency_prefix" text ({ · with dependencyPrefix := some · }),
  field "ear_module_prefix" text ({ · with earModulePrefix := some · })]

/-- Read the defaults. -/
def decode (v : Toml.Value) : Except Fault InjectionDefaults := record "InjectConfig" fields {} v

end InjectionDefaults

namespace ProfileEntry

/-- A profile that is being read. -/
structure Draft where
  id : Option String := none
  active : Option Bool := none
  properties : Option Toml.Entries := none

/-- The fields of a profile. -/
def fields : List (RecordField Draft) := [
  field "id" text ({ · with id := some · }),
  field "active" boolean ({ · with active := some · }),
  field "properties" anyTable ({ · with properties := some · })]

/-- Read a profile. -/
def decode (v : Toml.Value) : Except Fault ProfileEntry := do
  let d ← record "ProfileConfig" fields {} v
  return ⟨← required "id" d.id, d.active, d.properties⟩

end ProfileEntry

namespace Dependency

/-- The fields of a dependency. -/
def decodedFields : List (RecordField Dependency) := [
  field "group_id" text ({ · with groupId := some · }),
  field "artifact_id" text ({ · with artifactId := some · }),
  field "version" text ({ · with version := some · }),
  field "type" text ({ · with type := some · }),
  field "scope" text ({ · with scope := some · })]

/-- Read a dependency. -/
def decode (v : Toml.Value) : Except Fault Dependency :=
  record "DependencyConfig" decodedFields {} v

end Dependency

namespace PluginEntry

/-- A plugin that is being read. -/
structure Draft where
  groupId : Option String := none
  artifactId : Option String := none
  version : Option String := none
  configuration : Option String := none

/-- The fields of a plugin. -/
def fields : List (RecordField Draft) := [
  field "group_id" text ({ · with groupId := some · }),
  field "artifact_id" text ({ · with artifactId := some · }),
  field "version" text ({ · with version := some · }),
  field "configuration" text ({ · with configuration := some · })]

/-- Read a plugin. -/
def decode (v : Toml.Value) : Except Fault PluginEntry := do
  let d ← record "PluginConfig" fields {} v
  return ⟨← required "group_id" d.groupId, ← required "artifact_id" d.artifactId, d.version,
    d.configuration⟩

end PluginEntry

namespace ProjectFile

/-- A project file that is being read. -/
structure Draft where
  project : Option Coordinates := none
  inject : Option InjectionDefaults := none
  profiles : List ProfileEntry := []
  dependencies : List Dependency := []
  plugins : List PluginEntry := []

/-- The fields of a project file. -/
def fields : List (RecordField Draft) := [
  field "project" Coordinates.decode ({ · with project := some · }),
  field "inject" InjectionDefaults.decode ({ · with inject := some · }),
  field "profiles" (list ProfileEntry.decode) ({ · with profiles := · }),
  field "dependencies" (list Dependency.decode) ({ · with dependencies := · }),
  field "build_plugins" (list PluginEntry.decode) ({ · with plugins := · })]

/-- Read a project file from the entries of a document. -/
def decode (entries : Toml.Entries) : Except Fault ProjectFile := do
  let d ← record "ProjectConfig" fields {} (.table entries)
  return ⟨← required "project" d.project, d.inject, d.profiles, d.dependencies, d.plugins⟩

/-! ## Reading the text -/

/-- The error for a text that is no project file. -/
def unreadable (text : String) : Error :=
  .malformed "toml_parsing" ("TOML parsing error: " ++ text)

/-- What stands for the words of the reader on the place of a fault in a text. -/
def syntaxFault : String := "<syntax>"

/-- The words on a text that is no document. -/
def faultText : Toml.Fault → String
  | .malformed => syntaxFault
  | .keyTooLong => "recursion limit\n"

/-- The project file that a text holds. -/
def ofText (env : Environment) (s : String) : Except Error ProjectFile :=
  match Toml.read s with
  | .error fault => .error (unreadable (faultText fault))
  | .ok entries =>
    -- what is put in cannot change the structure of the document any more
    (decode (env.expandEntries entries)).mapError fun fault => unreadable fault.message

/-- The project file that the bytes of a file hold; they have to be UTF-8. -/
def ofBytes (env : Environment) (bytes : List UInt8) : Except Error ProjectFile :=
  match Text.decodeUtf8 bytes with
  | .error _ => .error (.io .notUtf8)
  | .ok s => ofText env s

end ProjectFile

end BuildInjection
