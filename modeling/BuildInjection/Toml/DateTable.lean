import BuildInjection.Toml.Document

/-!
# Tables that stand for dates

One key is reserved: a table below the root that begins with it stands for the date or time that is
spelled under it, and nothing else in such a table counts.
-/

namespace BuildInjection.Toml

/-- The reserved key. -/
def dateKey : String := "$__toml_private_datetime"

/-- The date or time that a text spells. -/
def Value.spelledDate? : Value → Option Value
  | .string s => (DateTime.ofChars? s.toList).map .datetime
  | _ => none

mutual

/-- A value in which the tables that begin with the reserved key are dates or times, if each of them
    spells one. -/
def Value.withDates? : Value → Option Value
  | .table ((key, v) :: es) =>
    -- the entries that follow are not looked at
    if key = dateKey then v.spelledDate?
    else v.withDates?.bind fun v => (entriesWithDates? es).map fun es => .table ((key, v) :: es)
  | .array items => (itemsWithDates? items).map .array
  | v => some v

/-- Values in which the tables that begin with the reserved key are dates or times. -/
def itemsWithDates? : List Value → Option (List Value)
  | [] => some []
  | v :: vs => v.withDates?.bind fun v => (itemsWithDates? vs).map (v :: ·)

/-- Entries in whose values the tables that begin with the reserved key are dates or times. -/
def entriesWithDates? : List (String × Value) → Option (List (String × Value))
  | [] => some []
  | (key, v) :: es => v.withDates?.bind fun v => (entriesWithDates? es).map ((key, v) :: ·)

end

/-- The entries of a document. -/
def read (s : String) : Except Fault Entries :=
  -- the root is a table of its own kind, and its first key may be any
  (parse s).bind fun es => orMalformed (entriesWithDates? es)

end BuildInjection.Toml
