import BuildInjection.Json
import BuildInjection.Text.Basic

/-!
# Dependencies

A dependency of a build has five positions, each of which may be unset:
`groupId:artifactId:version:type:scope`.  Reading one from a spec never fails: a shorter spec
leaves the later positions unset, and fields after the fifth are dropped.
-/

namespace BuildInjection

/-- A dependency of a build. -/
structure Dependency where
  groupId : Option String := none
  artifactId : Option String := none
  version : Option String := none
  type : Option String := none
  scope : Option String := none
deriving DecidableEq, Repr, Inhabited

namespace Dependency

/-- The dependency whose positions are the given fields, in order. -/
def ofFields (fields : List String) : Dependency where
  groupId := fields[0]?
  artifactId := fields[1]?
  version := fields[2]?
  type := fields[3]?
  scope := fields[4]?

/-- The dependency that a spec describes. -/
def ofSpec (spec : String) : Dependency :=
  ofFields (Text.fields spec)

/-- A position as it is shown: unset ones are called `null`. -/
def shown (value : Option String) : String := value.getD "null"

/-- The text that shows a dependency; the scope is not part of it. -/
def display (d : Dependency) : String :=
  "Dependency \x7bgroupId=" ++ shown d.groupId ++ ", artifactId=" ++ shown d.artifactId ++
    ", version=" ++ shown d.version ++ ", type=" ++ shown d.type ++ "\x7d"

/-- A dependency as a JSON object of the positions that are set. -/
def toJson (d : Dependency) : Json :=
  .object (Json.optional "groupId" d.groupId ++ Json.optional "artifactId" d.artifactId ++
    Json.optional "version" d.version ++ Json.optional "type" d.type ++
    Json.optional "scope" d.scope)

end Dependency

end BuildInjection
