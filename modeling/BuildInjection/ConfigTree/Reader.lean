import BuildInjection.ConfigTree.Basic
import BuildInjection.Text.Basic
import BuildInjection.Xml.Document

/-!
# Configuration trees from XML text

An element becomes a node of its name, without the qualifier.  The characters directly in it are its
value, taken together and without blanks at the ends; its child elements become the children.
Attributes and remarks are dropped.
-/

namespace BuildInjection.ConfigTree

/-- The value that some characters give: none if all of them are blank. -/
def valueOfText (chars : List Char) : Option String :=
  -- line ends and blanks between the children are layout
  if chars.all Text.isBlank then none else some (String.ofList (Text.trimChars chars))

mutual

/-- The node of an element. -/
def ofElement : Xml.Element → ConfigTree
  | ⟨name, _, text, children⟩ => ⟨name.base, valueOfText text, ofElements children⟩

/-- The nodes of several elements. -/
def ofElements : List Xml.Element → List ConfigTree
  | [] => []
  | e :: es => ofElement e :: ofElements es

end

/-- The tree that an XML text holds. -/
def parse? (s : String) : Option ConfigTree :=
  (Xml.Element.ofDocument? s.toList).map ofElement

end BuildInjection.ConfigTree
