import BuildInjection.Text.CharacterClass

/-!
# Quoted text in the log

The form in which the log and the messages about a project file show a text: between quotes, with
an escape for the quote, the backslash and everything that has no glyph of its own.  Optional
values, lists and records of such values have their forms here as well.
-/

namespace BuildInjection.Text

/-- The hexadecimal digits of a number, in lower case and without leading zeros. -/
def hexDigits (n : Nat) : List Char := Nat.toDigits 16 n

/-- The escape that gives the code point of a character. -/
def codePointChars (c : Char) : List Char :=
  '\\' :: 'u' :: '\x7b' :: hexDigits c.toNat ++ ['\x7d']

/-- A character as it stands between the quotes. -/
def quotedChar (c : Char) : List Char :=
  if c = '\x00' then ['\\', '0']
  else if c = '\t' then ['\\', 't']
  else if c = '\r' then ['\\', 'r']
  else if c = '\n' then ['\\', 'n']
  else if c = '"' then ['\\', '"']
  else if c = '\\' then ['\\', '\\']
  -- a character without a glyph would not be seen
  else if isHidden c then codePointChars c
  else [c]

/-- A text between quotes. -/
def quoted (s : String) : String :=
  String.ofList ('"' :: s.toList.flatMap quotedChar ++ ['"'])

/-- An optional value: `None`, or the value in `Some(…)`. -/
def optionForm {α : Type} (form : α → String) : Option α → String
  | none => "None"
  | some a => "Some(" ++ form a ++ ")"

/-- A list of values between brackets. -/
def listForm {α : Type} (form : α → String) (items : List α) : String :=
  "[" ++ ", ".intercalate (items.map form) ++ "]"

/-- A record: its name and its fields between braces. -/
def recordForm (name : String) (fields : List (String × String)) : String :=
  name ++ " \x7b " ++ ", ".intercalate (fields.map fun (key, value) => key ++ ": " ++ value) ++
    " \x7d"

end BuildInjection.Text
