import BuildInjection.Text.Scan
import BuildInjection.Xml.Characters

/-!
# Character data

What stands between tags, in a quoted attribute value or in a section taken as it is.  It is first
cut into pieces, each a character that is written plainly or one that a reference stands for; the
ends of lines are then unified, and references keep their characters through that.
-/

namespace BuildInjection.Xml

/-- A character of character data, with the way in which it is written. -/
inductive Piece where
  /-- A character that stands for itself. -/
  | plain (c : Char)
  /-- A character that a reference stands for. -/
  | reference (c : Char)
deriving DecidableEq, Repr

/-- The character of a code point; a number that is none gives the replacement character. -/
def charOfNumber (n : Nat) : Char :=
  if n.isValidChar then Char.ofNat n else '\ufffd'

/-- The character of a numeric reference, if there are digits, they fit 32 bits, and the character
    is a legal one. -/
def charOfDigits? (base : Nat) (digits : List Char) : Option Char :=
  let n := Text.number base digits
  if !digits.isEmpty && n < 1 <<< 32 && isLegal (charOfNumber n) then some (charOfNumber n) else none

/-- The character for which a reference stands, given what is between `&` and `;`. -/
def charOfReference? : List Char → Option Char
  | ['a', 'm', 'p'] => some '&'
  | ['l', 't'] => some '<'
  | ['g', 't'] => some '>'
  | ['q', 'u', 'o', 't'] => some '"'
  | ['a', 'p', 'o', 's'] => some '\x27'
  -- only a small `x` says so; after a capital one there would have to be decimal digits
  | '#' :: 'x' :: digits => if digits.all Text.isHexDigit then charOfDigits? 16 digits else none
  | '#' :: digits => if digits.all Char.isDigit then charOfDigits? 10 digits else none
  | _ => none

/-- Cut character data into its pieces.  `pending` holds what has been read of a reference, last
    character first; every `&` begins one. -/
def piecesFrom (pending : Option (List Char)) : List Char → Option (List Piece)
  | [] => if pending.isNone then some [] else none
  | c :: cs =>
    match pending with
    | none => if c = '&' then piecesFrom (some []) cs else (piecesFrom none cs).map (.plain c :: ·)
    | some name =>
      -- the name was collected backwards
      if c = ';' then
        (charOfReference? name.reverse).bind fun r => (piecesFrom none cs).map (.reference r :: ·)
      else piecesFrom (some (c :: name)) cs

/-- The pieces of character data; none if a reference stands for nothing. -/
def pieces? (s : List Char) : Option (List Piece) := piecesFrom none s

/-! ## Content -/

/-- The characters of some content: a carriage return becomes a line feed, together with a line
    feed after it.  What a reference stands for stays as it is, and so does the character after it.
    `held` says that a carriage return waits for its successor, and `asIs` that a reference has
    just been read. -/
def unifyFrom (held asIs : Bool) : List Piece → List Char
  | [] => if held then ['\r'] else []
  | .reference c :: ps => (if held then ['\r'] else []) ++ c :: unifyFrom false true ps
  | .plain c :: ps =>
    -- what stands right after a reference is not looked at as the end of a line
    if asIs then
      if c = '\r' then unifyFrom true false ps else c :: unifyFrom false false ps
    -- nothing can follow a carriage return at the end, so it does not wait
    else if c = '\r' then
      (if held then ['\n'] else []) ++ if ps.isEmpty then ['\n'] else unifyFrom true false ps
    else
      (if held then ['\n'] else []) ++
        if held && c = '\n' then unifyFrom false false ps else c :: unifyFrom false false ps

/-- The characters that the pieces of some content stand for. -/
def unify (ps : List Piece) : List Char := unifyFrom false false ps

/-- The characters that some content stands for. -/
def content? (s : List Char) : Option (List Char) := (pieces? s).map unify

/-- The characters of a section in which nothing is a reference. -/
def verbatim (s : List Char) : List Char := unify (s.map .plain)

/-! ## Attribute values -/

/-- The characters of an attribute value: every end of line and every tab becomes a space. -/
def flatten : List Piece → List Char
  | [] => []
  | .reference c :: ps => c :: flatten ps
  | .plain c :: ps =>
    -- the line feed after it makes the space
    if c = '\r' && ps.head? = some (.plain '\n') then flatten ps
    else (if isSpace c then ' ' else c) :: flatten ps

/-- The value that a quoted attribute stands for. -/
def attributeValue? (s : List Char) : Option (List Char) := (pieces? s).map flatten

end BuildInjection.Xml
