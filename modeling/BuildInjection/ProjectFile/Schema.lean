import BuildInjection.Decimal.Shortest
import BuildInjection.Text.Quoted
import BuildInjection.Toml.Value

/-!
# Reading records from values

A record is read from a table, whose entries fill its fields in the order of the document, or from
an array that gives all its fields in the order of the record.  What does not fit is reported with
the keys that lead to it.
-/

namespace BuildInjection.Schema

/-- What does not fit. -/
inductive Problem where
  /-- A field without which there is no record. -/
  | missingField (name : String)
  /-- A value of the wrong kind. -/
  | wrongKind (found : Toml.Value) (expected : String)
  /-- An array that ends before all fields of a record are filled. -/
  | tooShort (length : Nat) (record : String) (fields : Nat)
  /-- An array that goes on when all fields of a record are filled. -/
  | tooLong (length : Nat)

/-- What does not fit, and where: the keys that lead to it, places in arrays left out. -/
structure Fault where
  path : List String := []
  problem : Problem

/-- What a value is called in a message. -/
def describe : Toml.Value → String
  | .string s => "string " ++ Text.quoted s
  | .integer i => s!"integer `{i}`"
  | .float x => "floating point `" ++ x.text "NaN" ++ "`"
  | .boolean b => "boolean `" ++ (if b then "true" else "false") ++ "`"
  -- a date is read as a text, and so it is named as one
  | .datetime d => "string " ++ Text.quoted d.text
  | .array _ => "sequence"
  | .table _ => "map"

/-- What is said about something that does not fit. -/
def Problem.message : Problem → String
  | .missingField name => s!"missing field `{name}`"
  | .wrongKind found expected => s!"invalid type: {describe found}, expected {expected}"
  | .tooShort length record fields =>
    s!"invalid length {length}, expected struct {record} with {fields} elements"
  | .tooLong length => s!"invalid length {length}, expected fewer elements in array"

/-- The message on a fault: a line for the problem, and a line for the place unless that is the
    whole document. -/
def Fault.message (fault : Fault) : String :=
  fault.problem.message ++ "\n" ++
    if fault.path.isEmpty then "" else "in `" ++ ".".intercalate fault.path ++ "`\n"

/-- A way to read something from a value. -/
abbrev Decoder (α : Type) := Toml.Value → Except Fault α

variable {α β ρ : Type}

/-- Refuse a value of the wrong kind. -/
def refuse (expected : String) (v : Toml.Value) : Except Fault α :=
  .error { problem := .wrongKind v expected }

/-- What is read under a key: a fault gets the key in front of its path. -/
def under (key : String) (result : Except Fault α) : Except Fault α :=
  result.mapError fun fault => { fault with path := key :: fault.path }

/-- Read a text; a date or time is one as well. -/
def text : Decoder String
  | .string s => .ok s
  | .datetime d => .ok d.text
  | v => refuse "a string" v

/-- Read a truth value. -/
def boolean : Decoder Bool
  | .boolean b => .ok b
  | v => refuse "a boolean" v

/-- Read a table of any values, in which dates and times are texts. -/
def anyTable : Decoder Toml.Entries
  | .table entries => .ok (Toml.Value.spellEntryDates entries)
  | v => refuse "a map" v

/-- Read a list. -/
def list (item : Decoder α) : Decoder (List α)
  | .array items => items.mapM item
  | v => refuse "a sequence" v

/-- A field of a record that is being filled, which has the type `ρ`. -/
structure RecordField (ρ : Type) where
  key : String
  /-- Read a value and put it into the record. -/
  fill : ρ → Decoder ρ

/-- A field that is read in a given way and put into its place. -/
def field (key : String) (decode : Decoder α) (set : ρ → α → ρ) : RecordField ρ where
  key := key
  fill r v := (decode v).map (set r)

/-- Fill the fields of a record from the entries of a table; other entries are passed over. -/
def fillFromEntries (fields : List (RecordField ρ)) : ρ → Toml.Entries → Except Fault ρ
  | r, [] => .ok r
  | r, (key, v) :: es =>
    match fields.find? (·.key = key) with
    -- a key that no field has
    | none => fillFromEntries fields r es
    | some f => (under key (f.fill r v)).bind fun r => fillFromEntries fields r es

/-- Fill the fields of a record from the items of an array, where `tooShort` and `tooLong` are the
    problems with its length. -/
def fillFromItems (tooShort tooLong : Problem) :
    List (RecordField ρ) → ρ → List Toml.Value → Except Fault ρ
  | [], r, [] => .ok r
  | [], _, _ :: _ => .error { problem := tooLong }
  | _ :: _, _, [] => .error { problem := tooShort }
  | f :: fs, r, v :: vs => (f.fill r v).bind fun r => fillFromItems tooShort tooLong fs r vs

/-- Read a record of a name, beginning with an empty one. -/
def record (name : String) (fields : List (RecordField ρ)) (start : ρ) : Decoder ρ
  | .table entries => fillFromEntries fields start entries
  | .array items =>
    -- an array gives the fields without their names
    fillFromItems (.tooShort items.length name fields.length) (.tooLong items.length) fields start
      items
  | v => refuse s!"struct {name}" v

/-- The value of a field that has to be there. -/
def required (key : String) : Option α → Except Fault α
  | none => .error { problem := .missingField key }
  | some a => .ok a

end BuildInjection.Schema
