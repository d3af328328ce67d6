import BuildInjection.ConfigTree.Basic

/-!
# Configuration trees as XML text

A node is an element: its value comes first, as character data, and its children follow.  A node
with neither is an empty-element tag; a node with an empty value is not.
-/

namespace BuildInjection.ConfigTree

/-- A character of a value as it is written: the four characters that markup or an attribute could
    be made of become references. -/
def escapeChar (c : Char) : List Char :=
  if c = '<' then ['&', 'l', 't', ';']
  else if c = '>' then ['&', 'g', 't', ';']
  else if c = '&' then ['&', 'a', 'm', 'p', ';']
  else if c = '"' then ['&', 'q', 'u', 'o', 't', ';']
  else [c]

/-- A value as it is written. -/
def escape (value : String) : List Char :=
  value.toList.flatMap escapeChar

/-- The written form of an optional value. -/
def escapeValue : Option String → List Char
  | none => []
  | some value => escape value

mutual

/-- The characters of a tree's written form. -/
def renderChars : ConfigTree → List Char
  | ⟨name, none, []⟩ => '<' :: name.toList ++ ['/', '>']
  | ⟨name, value, children⟩ =>
    '<' :: name.toList ++ '>' :: escapeValue value ++ renderAll children ++
      '<' :: '/' :: name.toList ++ ['>']

/-- The written forms of several trees, one after the other. -/
def renderAll : List ConfigTree → List Char
  | [] => []
  | t :: ts => renderChars t ++ renderAll ts

end

/-- The written form of a tree. -/
def render (t : ConfigTree) : String :=
  String.ofList (renderChars t)

end BuildInjection.ConfigTree
