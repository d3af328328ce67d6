import BuildInjection.Dependency
import BuildInjection.OrderedMap
import BuildInjection.Plugin

/-!
# Projects

The build model that a run reads and writes: coordinates, profiles with their properties,
dependencies and plugins.
-/

namespace BuildInjection

/-- A profile of a project. -/
structure Profile where
  id : String
  active : Bool := true
  properties : Properties := .empty
deriving DecidableEq, Inhabited

/-- A build model. -/
structure Project where
  groupId : String
  artifactId : String
  version : String
  profiles : List Profile := []
  dependencies : List Dependency := []
  plugins : List Plugin := []
deriving DecidableEq, Inhabited

/-- The properties of a profile as JSON, in their order. -/
def propertiesToJson (m : Properties) : Json :=
  .object (m.entries.map fun (key, value) => (key, .string value))

/-- A profile as JSON. -/
def Profile.toJson (p : Profile) : Json :=
  .object [("id", .string p.id), ("active", .bool p.active),
    ("properties", propertiesToJson p.properties)]

namespace Project

/-- The profiles that are switched on. -/
def activeProfiles (p : Project) : List Profile := p.profiles.filter (·.active)

/-- The first plugin of a group and an artifact. -/
def plugin? (p : Project) (groupId artifactId : String) : Option Plugin :=
  p.plugins.find? (·.hasId groupId artifactId)

/-- The configuration tree of the first plugin of a group and an artifact, if it has one. -/
def pluginTree? (p : Project) (groupId artifactId : String) : Option ConfigTree :=
  (p.plugin? groupId artifactId).bind fun plugin => plugin.configuration.bind (·.tree?)

/-- A project as JSON. -/
def toJson (p : Project) : Json :=
  .object [("groupId", .string p.groupId), ("artifactId", .string p.artifactId),
    ("version", .string p.version), ("profiles", .array (p.profiles.map Profile.toJson)),
    ("dependencies", .array (p.dependencies.map Dependency.toJson)),
    ("buildPlugins", .array (p.plugins.map Plugin.toJson))]

end Project

end BuildInjection
