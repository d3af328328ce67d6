import BuildInjection.ConfigTree.Basic

/-!
# Plugins

A plugin of a build, known by its group and artifact, with a configuration that is either a tree or
a text that could not be read as one.
-/

namespace BuildInjection

/-- The configuration of a plugin. -/
inductive Configuration where
  /-- A configuration that was read. -/
  | tree (t : ConfigTree)
  /-- A text that is no configuration tree, kept as it is. -/
  | raw (text : String)
deriving DecidableEq, Inhabited

/-- A plugin of a build. -/
structure Plugin where
  groupId : String
  artifactId : String
  version : Option String := none
  configuration : Option Configuration := none
deriving DecidableEq, Inhabited

namespace Configuration

/-- The tree of a configuration that has been read as one. -/
def tree? : Configuration → Option ConfigTree
  | .tree t => some t
  | .raw _ => none

/-- A configuration as JSON: a tree is an object, and a text is a string. -/
def toJson : Configuration → Json
  | .tree t => t.toJson
  | .raw text => .string text

end Configuration

namespace Plugin

/-- Whether the plugin is the one of a group and an artifact. -/
def hasId (p : Plugin) (groupId artifactId : String) : Bool :=
  p.groupId = groupId && p.artifactId = artifactId

/-- A plugin as JSON, without the members that have no value. -/
def toJson (p : Plugin) : Json :=
  .object (("groupId", .string p.groupId) :: ("artifactId", .string p.artifactId) ::
    Json.optional "version" p.version ++
    (p.configuration.map fun c => ("configuration", c.toJson)).toList)

end Plugin

end BuildInjection
