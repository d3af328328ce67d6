import BuildInjection.Cut

/-!
# Trimming and cutting texts

The characters that count as white space around a value, and the text that is left when they are
taken off both ends; they are those of the Unicode property `White_Space`.  A text can also be cut
at every occurrence of one separating character.  The empty pieces are dropped then, so that any run
of separators counts as one and separators at the ends count for nothing.
-/

namespace BuildInjection.Text

/-! ## Blank characters -/

/-- The characters of the Unicode property `White_Space`. -/
def isBlank (c : Char) : Bool :=
  let n := c.toNat
  (0x09 ≤ n && n ≤ 0x0D) || n == 0x20 || n == 0x85 || n == 0xA0 || n == 0x1680 ||
    (0x2000 ≤ n && n ≤ 0x200A) || n == 0x2028 || n == 0x2029 || n == 0x202F || n == 0x205F ||
    n == 0x3000

/-- The characters without the blank ones at either end. -/
def trimChars (cs : List Char) : List Char :=
  trimEnds isBlank cs

/-- The text without the blank characters at either end. -/
def trim (s : String) : String :=
  String.ofList (trimChars s.toList)

/-- Whether nothing is left of a text when blank characters are taken off. -/
def isBlankText (s : String) : Bool :=
  s.toList.all isBlank

/-! ## Pieces between separators -/

/-- The non-empty pieces of a text between the occurrences of `sep`, in order. -/
def pieces (sep : Char) (s : String) : List String :=
  -- an empty piece lies between two separators, or at an end
  ((cut (· = sep) s.toList).filter (!·.isEmpty)).map String.ofList

/-- The words of a property value: one item spec each, separated by any number of spaces. -/
def specs (value : String) : List String :=
  pieces ' ' value

/-- The fields of an item spec, separated by any number of colons. -/
def fields (spec : String) : List String :=
  pieces ':' spec

end BuildInjection.Text
