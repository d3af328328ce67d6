import BuildInjection.Decimal.Binary64
import BuildInjection.Toml.DateTime

/-!
# TOML values

The values that a TOML document holds.  Tables keep the order of their keys.
-/

namespace BuildInjection.Toml

/-- A TOML value. -/
inductive Value where
  | string (s : String)
  | integer (i : Int)
  | float (x : Binary64)
  | boolean (b : Bool)
  | datetime (d : DateTime)
  | array (items : List Value)
  | table (entries : List (String × Value))
deriving Inhabited

/-- The entries of a table. -/
abbrev Entries := List (String × Value)

namespace Value

/-- The kind of a value, as it is called. -/
def kind : Value → String
  | .string _ => "string"
  | .integer _ => "integer"
  | .float _ => "float"
  | .boolean _ => "boolean"
  | .datetime _ => "datetime"
  | .array _ => "array"
  | .table _ => "table"

/-! ## Values without dates

Where a program has no use for dates and times, each of them becomes its text. -/

mutual

/-- A value in which every date or time is replaced by its text. -/
def spellDates : Value → Value
  | .datetime d => .string d.text
  | .array items => .array (spellAllDates items)
  | .table entries => .table (spellEntryDates entries)
  | .string s => .string s
  | .integer i => .integer i
  | .float x => .float x
  | .boolean b => .boolean b

/-- Values in which every date or time is replaced by its text. -/
def spellAllDates : List Value → List Value
  | [] => []
  | v :: vs => v.spellDates :: spellAllDates vs

/-- Entries in which every date or time is replaced by its text. -/
def spellEntryDates : List (String × Value) → List (String × Value)
  | [] => []
  | (key, v) :: es => (key, v.spellDates) :: spellEntryDates es

end

end Value

end BuildInjection.Toml
