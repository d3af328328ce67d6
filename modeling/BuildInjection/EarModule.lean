import BuildInjection.ConfigTree.Basic
import BuildInjection.Text.Basic

/-!
# EAR modules

A module of an enterprise archive is described by `groupId:artifactId:moduleType[:contextRoot]` and
becomes a configuration node named for its type: `web` and `webModule` both give `webModule`.
-/

namespace BuildInjection

/-- Why a spec is left out of a run. -/
inductive SpecFault where
  /-- Fewer than three fields. -/
  | noModuleType (spec : String)
  /-- The module type is nothing but the suffix. -/
  | bareSuffix (spec : String)
  /-- The module type gives no element name. -/
  | badElementName (spec name : String)
deriving DecidableEq, Repr

/-- The text that says why a spec is left out. -/
def SpecFault.message : SpecFault → String
  | .noModuleType spec => s!"Module type not found in '{spec}'"
  | .bareSuffix spec =>
    s!"Fails to create module configuration for '{spec}': " ++
      "module type has no name before the Module suffix"
  | .badElementName spec name =>
    s!"Fails to create module configuration for '{spec}': '{name}' is not a valid element name"

/-- What a spec says about a module. -/
structure EarModule where
  groupId : String
  artifactId : String
  moduleType : String
  contextRoot : Option String := none
deriving DecidableEq, Repr

namespace EarModule

/-- The end of every module element's name. -/
def suffix : String := "Module"

/-- The module that a spec describes; fields after the fourth are dropped. -/
def ofSpec (spec : String) : Except SpecFault EarModule :=
  match Text.fields spec with
  | groupId :: artifactId :: moduleType :: rest =>
    -- the context root is the fourth field if there is one
    .ok ⟨groupId, artifactId, moduleType, rest.head?⟩
  | _ => .error (.noModuleType spec)

/-- The name of the module's element: its type, with the suffix added unless it is there. -/
def elementName (m : EarModule) : String :=
  if suffix.toList.isSuffixOf m.moduleType.toList then m.moduleType else m.moduleType ++ suffix

/-- Whether a character may stand first in the name of a module element. -/
def isElementStart (c : Char) : Bool := c.isAlpha || c = '_'

/-- Whether a character may stand in the name of a module element. -/
def isElementChar (c : Char) : Bool := c.isAlphanum || c = '_' || c = '-' || c = '.'

/-- Whether a text may name a module element: ASCII letters, digits and `_`, `-`, `.`, beginning
    with a letter or `_`. -/
def isElementName (name : String) : Bool :=
  match name.toList with
  | [] => false
  | c :: cs => isElementStart c && cs.all isElementChar

/-- The node of a module, where `spec` is what it was read from. -/
def toTree (spec : String) (m : EarModule) : Except SpecFault ConfigTree :=
  -- the suffix alone would be a valid name, but it names no type
  if m.moduleType = suffix then .error (.bareSuffix spec)
  else if isElementName m.elementName then
    .ok ⟨m.elementName, none, .leaf "groupId" m.groupId :: .leaf "artifactId" m.artifactId ::
      (m.contextRoot.map (ConfigTree.leaf "contextRoot")).toList⟩
  else .error (.badElementName spec m.elementName)

/-- The node that a spec describes. -/
def treeOfSpec (spec : String) : Except SpecFault ConfigTree :=
  (ofSpec spec).bind (toTree spec)

end EarModule

end BuildInjection
