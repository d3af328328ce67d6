import BuildInjection.Decimal.Shortest
import BuildInjection.Toml.Value

/-!
# TOML values as text

A value on one line, or over several where a text holds the end of a line.  A text is quoted in the
plainest way that needs no escape: on one line with double quotes or with single ones, then over
several lines with either.  Where there is no such way, characters are escaped.
-/

namespace BuildInjection.Toml

/-! ## Quoting -/

/-- Whether a character can only be written with an escape: the control characters other than the
    tab and the line feed. -/
def needsEscape (c : Char) : Bool :=
  (c.toNat < 0x20 && c != '\t' && c != '\n') || c.toNat = 0x7F

/-- The length of the longest run of a character. -/
def longestRun (c : Char) : List Char → Nat → Nat
  | [], current => current
  | d :: ds, current =>
    if d = c then longestRun c ds (current + 1) else max current (longestRun c ds 0)

/-- One hexadecimal digit in upper case. -/
def upperHexDigit (n : Nat) : Char :=
  if n < 10 then Char.ofNat ('0'.toNat + n) else Char.ofNat ('A'.toNat + (n - 10))

/-- A character other than the double quote and the line feed between double quotes. -/
def escapedChar (c : Char) : List Char :=
  if c = '\x08' then ['\\', 'b']
  else if c = '\t' then ['\\', 't']
  else if c = '\x0c' then ['\\', 'f']
  else if c = '\r' then ['\\', 'r']
  else if c = '\\' then ['\\', '\\']
  else if needsEscape c then
    ['\\', 'u', '0', '0', upperHexDigit (c.toNat / 16), upperHexDigit (c.toNat % 16)]
  else [c]

/-- Characters between double quotes, where so many quotes in a row need no escape, `run` of them
    have just been written, and `lines` says that the end of a line stands for itself. -/
def escaped (quotes : Nat) (lines : Bool) : List Char → Nat → List Char
  | [], _ => []
  | c :: cs, run =>
    if c = '"' then
      -- fewer quotes than those that close the text
      if run < quotes then c :: escaped quotes lines cs (run + 1)
      else '\\' :: '"' :: escaped quotes lines cs 0
    else if c = '\n' then
      (if lines then ['\n'] else ['\\', 'n']) ++ escaped quotes lines cs 0
    else escapedChar c ++ escaped quotes lines cs 0

/-- A text on one line between double quotes. -/
def basic (cs : List Char) : List Char := '"' :: escaped 0 false cs 0 ++ ['"']

/-- A text on one line between single quotes. -/
def literal (cs : List Char) : List Char := '\x27' :: cs ++ ['\x27']

/-- What stands after the opening quotes of a text over several lines: a line of its own for the
    quotes, if there is more than one line at all. -/
def firstLine (cs : List Char) : List Char := if cs.contains '\n' then ['\n'] else []

/-- A text over several lines between double quotes. -/
def basicBlock (cs : List Char) : List Char :=
  ['"', '"', '"'] ++ firstLine cs ++ escaped 2 true cs 0 ++ ['"', '"', '"']

/-- A text over several lines between single quotes. -/
def literalBlock (cs : List Char) : List Char :=
  ['\x27', '\x27', '\x27'] ++ firstLine cs ++ cs ++ ['\x27', '\x27', '\x27']

/-- A text in the plainest quotes. -/
def quotedText (s : String) : String :=
  let cs := s.toList
  let escapes := cs.any needsEscape
  let backslash := cs.contains '\\'
  let lines := cs.contains '\n'
  let doubles := longestRun '"' cs 0
  let singles := longestRun '\x27' cs 0
  String.ofList <|
    -- nothing in the text means anything between double quotes
    if !escapes && !backslash && doubles = 0 && !lines then basic cs
    -- between single quotes a backslash is a character like others
    else if !escapes && singles = 0 && !lines then literal cs
    -- two quotes in a row do not close a text over several lines
    else if !escapes && !backslash && doubles ≤ 2 then basicBlock cs
    else if !escapes && singles ≤ 2 then literalBlock cs
    else if lines then basicBlock cs
    else basic cs

/-- A key, without quotes where that is possible. -/
def keyText (key : String) : String :=
  let cs := key.toList
  -- a key stands on one line, so the end of a line needs an escape as well
  let escapes := cs.any needsEscape || cs.contains '\n'
  String.ofList <|
    if !cs.isEmpty && cs.all (fun c => c.isAlphanum || c = '_' || c = '-') then cs
    else if !escapes && !cs.contains '\\' && !cs.contains '"' then basic cs
    else if !escapes && !cs.contains '\x27' then literal cs
    else basic cs

/-! ## Values -/

namespace Value

mutual

/-- The text of a value. -/
def text : Value → String
  | .string s => quotedText s
  | .integer i => toString i
  | .float x => x.text "nan"
  | .boolean b => if b then "true" else "false"
  | .datetime d => d.text
  | .array items => "[" ++ itemsText items ++ "]"
  | .table [] => "\x7b\x7d"
  | .table (entry :: entries) => "\x7b " ++ entriesText (entry :: entries) ++ " \x7d"

/-- The texts of the items of an array, with commas between them. -/
def itemsText : List Value → String
  | [] => ""
  | [v] => v.text
  | v :: vs => v.text ++ ", " ++ itemsText vs

/-- The texts of the entries of a table, with commas between them. -/
def entriesText : List (String × Value) → String
  | [] => ""
  | [(key, v)] => keyText key ++ " = " ++ v.text
  | (key, v) :: es => keyText key ++ " = " ++ v.text ++ ", " ++ entriesText es

end

end Value

end BuildInjection.Toml
