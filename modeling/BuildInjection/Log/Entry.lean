import BuildInjection.Log.Event
import BuildInjection.Text.Quoted

/-!
# Entries of the log

A report is shown as JSON or in plain form.  In plain form, characters that a terminal would obey
are spelled out, and where the wording has several lines, only the first belongs to the entry.
-/

namespace BuildInjection.Log

/-- What the log shows of a report. -/
structure Entry where
  level : Level
  text : String
deriving DecidableEq, Repr

/-- A character as a plain entry shows it. -/
def plainChar (c : Char) : List Char :=
  match c with
  | '\x07' => ['\\', 'x', '0', '7']
  | '\x08' => ['\\', 'x', '0', '8']
  | '\x0c' => ['\\', 'x', '0', 'c']
  | '\x1b' => ['\\', 'x', '1', 'b']
  | '\x7f' => ['\\', 'x', '7', 'f']
  -- the other control characters, for which there is no short form
  | c => if 0x80 ≤ c.toNat && c.toNat ≤ 0x9F then Text.codePointChars c else [c]

/-- The lines of a report in plain form. -/
def plainLines (e : Event) : List String :=
  (cut (· = '\n') (e.message.toList.flatMap plainChar)).map String.ofList

/-- A report as an entry, and the lines that follow it. -/
def entry (json : Bool) (e : Event) : Entry × List String :=
  if json then (⟨e.level, e.message⟩, [])
  else (⟨e.level, (plainLines e).headD ""⟩, (plainLines e).tail)

end BuildInjection.Log
