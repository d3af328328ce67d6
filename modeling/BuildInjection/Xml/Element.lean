import BuildInjection.Xml.Markup

/-!
# Elements

An element is read from the parts of a document with a stack of the elements that are still open:
a start tag opens one, character data and finished children go into the innermost one, and an end
tag of the same name closes it.
-/

namespace BuildInjection.Xml

/-- An element: its attributes, the characters directly in it, and its child elements in order. -/
structure Element where
  name : QName
  attributes : List Attribute
  text : List Char
  children : List Element
deriving Inhabited

/-- An element whose end tag has not been read. -/
structure OpenElement where
  name : QName
  attributes : List Attribute
  text : List Char := []
  /-- The children that are finished, last first. -/
  children : List Element := []

namespace OpenElement

/-- More characters directly in the element. -/
def addText (e : OpenElement) (chars : List Char) : OpenElement :=
  { e with text := e.text ++ chars }

/-- One more child of the element. -/
def addChild (e : OpenElement) (child : Element) : OpenElement :=
  { e with children := child :: e.children }

/-- The element when its end tag has been read. -/
def close (e : OpenElement) : Element :=
  ⟨e.name, e.attributes, e.text, e.children.reverse⟩

end OpenElement

namespace Element

/-- Read up to the end of the outermost open element.  `inner` is the innermost open element, and
    `outer` are the ones around it, from the inside out. -/
def readContent (inner : OpenElement) (outer : List OpenElement) (s : List Char) :
    Option (Element × List Char) :=
  match h : Markup.read s with
  | none => none
  | some (part, rest) =>
    have : rest.length < s.length := Markup.length_of_read h
    match part with
    | .text chars => readContent (inner.addText chars) outer rest
    | .remark => readContent inner outer rest
    | .emptyTag name attributes =>
      readContent (inner.addChild ⟨name, attributes, [], []⟩) outer rest
    -- the element that was innermost waits on the stack
    | .startTag name attributes => readContent { name, attributes } (inner :: outer) rest
    | .endTag name =>
      if name = inner.name then
        match outer with
        -- no element is open any more
        | [] => some (inner.close, rest)
        | next :: outer => readContent (next.addChild inner.close) outer rest
      else none
termination_by s.length

/-- Read an element from its start tag to its end tag. -/
def read (s : List Char) : Option (Element × List Char) :=
  match Markup.read s with
  | some (.emptyTag name attributes, rest) => some (⟨name, attributes, [], []⟩, rest)
  | some (.startTag name attributes, rest) => readContent { name, attributes } [] rest
  | _ => none

end Element

end BuildInjection.Xml
