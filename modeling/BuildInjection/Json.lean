/-!
# JSON text

The values that are written as JSON, and their two written forms: compact, and laid out over lines
with two spaces for each level.  Objects keep the order of their members.
-/

namespace BuildInjection

/-- A JSON value.  Only natural numbers are ever written. -/
inductive Json where
  | null
  | bool (b : Bool)
  | number (n : Nat)
  | string (s : String)
  | array (items : List Json)
  | object (members : List (String × Json))
deriving Inhabited

namespace Json

/-- One hexadecimal digit, in lower case. -/
def hexDigit (n : Nat) : Char :=
  if n < 10 then Char.ofNat ('0'.toNat + n) else Char.ofNat ('a'.toNat + (n - 10))

/-- A character as it stands between the quotes: quote, backslash and the characters below U+0020
    are escaped, with a letter where the format has one. -/
def escapeChar (c : Char) : List Char :=
  if c = '"' then ['\\', '"']
  else if c = '\\' then ['\\', '\\']
  else if c = '\n' then ['\\', 'n']
  else if c = '\r' then ['\\', 'r']
  else if c = '\t' then ['\\', 't']
  else if c = '\x08' then ['\\', 'b']
  else if c = '\x0c' then ['\\', 'f']
  -- the other control characters, for which there is no letter
  else if c.toNat < 0x20 then
    ['\\', 'u', '0', '0', hexDigit (c.toNat / 16), hexDigit (c.toNat % 16)]
  else [c]

/-- A text between quotes. -/
def quote (s : String) : String :=
  String.ofList ('"' :: s.toList.flatMap escapeChar ++ ['"'])

/-! ## The compact form -/

mutual

/-- A value on one line, without blanks. -/
def compact : Json → String
  | .null => "null"
  | .bool b => if b then "true" else "false"
  | .number n => toString n
  | .string s => quote s
  | .array items => "[" ++ compactItems items ++ "]"
  | .object members => "\x7b" ++ compactMembers members ++ "\x7d"

/-- The items of an array, with commas between them. -/
def compactItems : List Json → String
  | [] => ""
  | [item] => compact item
  | item :: items => compact item ++ "," ++ compactItems items

/-- The members of an object, with commas between them. -/
def compactMembers : List (String × Json) → String
  | [] => ""
  | [(key, value)] => quote key ++ ":" ++ compact value
  | (key, value) :: members => quote key ++ ":" ++ compact value ++ "," ++ compactMembers members

end

/-! ## The form laid out over lines -/

/-- The start of a line at a level. -/
def newLine (level : Nat) : String :=
  String.ofList ('\n' :: List.replicate (2 * level) ' ')

mutual

/-- A value laid out over lines, where `level` is the depth at which it stands.  Empty arrays and
    objects stay on one line. -/
def prettyAt (level : Nat) : Json → String
  | .array [] => "[]"
  | .array (item :: items) =>
    "[" ++ newLine (level + 1) ++ prettyAt (level + 1) item ++ prettyItems (level + 1) items ++
      newLine level ++ "]"
  | .object [] => "\x7b\x7d"
  | .object ((key, value) :: members) =>
    "\x7b" ++ newLine (level + 1) ++ quote key ++ ": " ++ prettyAt (level + 1) value ++
      prettyMembers (level + 1) members ++ newLine level ++ "\x7d"
  | .null => "null"
  | .bool b => if b then "true" else "false"
  | .number n => toString n
  | .string s => quote s

/-- The items of an array after the first, each on its own line. -/
def prettyItems (level : Nat) : List Json → String
  | [] => ""
  | item :: items => "," ++ newLine level ++ prettyAt level item ++ prettyItems level items

/-- The members of an object after the first, each on its own line. -/
def prettyMembers (level : Nat) : List (String × Json) → String
  | [] => ""
  | (key, value) :: members =>
    "," ++ newLine level ++ quote key ++ ": " ++ prettyAt level value ++ prettyMembers level members

end

/-- A value laid out over lines. -/
def pretty (j : Json) : String := prettyAt 0 j

/-- A member that is left out when there is no value. -/
def optional (key : String) : Option String → List (String × Json)
  -- a member without a value is not written as `null`
  | none => []
  | some s => [(key, .string s)]

end Json

end BuildInjection
