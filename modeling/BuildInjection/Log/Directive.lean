import BuildInjection.Cut
import BuildInjection.Log.Pattern
import BuildInjection.Text.Basic
import BuildInjection.Text.CharacterClass
import BuildInjection.Text.Scan

/-!
# Directives of log filters

A directive says how much of the log is shown of what it is about: `level` is about everything,
`part=level` about a part of a program, and `part[span{field}]=level` asks for more.  Without a
level everything is shown.
-/

namespace BuildInjection.Log

/-- How much is shown: the reports whose rank is at most this number. -/
abbrev Threshold := Nat

/-- The threshold that shows everything. -/
def showAll : Threshold := 5

/-- The threshold of a level number, which may have a sign in front and zeros before its digits. -/
def thresholdOfNumber? (cs : List Char) : Option Threshold :=
  let digits := if cs.head? = some '+' then cs.tail else cs
  -- zeros in front do not change the number
  let n := Text.number 10 digits
  if !digits.isEmpty && digits.all Char.isDigit && n ≤ showAll then some n else none

/-- The threshold of a level name or number; `trace` is above every report, and `off` below. -/
def thresholdOf? (cs : List Char) : Option Threshold :=
  match (String.ofList cs).toLower with
  | "off" => some 0
  | "error" => some 1
  | "warn" => some 2
  | "info" => some 3
  | "debug" => some 4
  | "trace" => some showAll
  | _ => thresholdOfNumber? cs

/-- What a directive asks of a report besides the part that makes it. -/
inductive Condition where
  /-- Nothing. -/
  | anything
  /-- That it has a field of this name. -/
  | hasField (name : List Char)
  /-- That it is made within a span of work. -/
  | withinSpan
deriving DecidableEq, Repr

/-- A directive. -/
structure Directive where
  /-- The front of the names of the parts that it is about. -/
  part : List Char
  condition : Condition
  threshold : Threshold
deriving DecidableEq, Repr

/-! ## Reading -/

/-- The pieces of the text of a directive. -/
structure Clauses where
  /-- What stands in front: a part, or a level. -/
  word : List Char
  /-- What stands between brackets. -/
  condition : Condition
  /-- What stands behind the equals sign. -/
  level : Option (List Char)

/-- The condition that a field between braces makes.  A field with a value is one of a span. -/
def Condition.ofField? (cs : List Char) : Option Condition :=
  match cut (· = '=') cs with
  -- braces without a name between them
  | [] | [[]] => none
  | [name] => some (.hasField name)
  | _ :: value :: _ => if isPattern value then some .withinSpan else none

/-- Read what stands between brackets, where the opening one has been read. -/
def readCondition (s : List Char) : Option (Condition × List Char) :=
  let name := s.takeWhile fun c => c != ']' && c != '\x7b'
  match s.drop name.length with
  -- a name alone is the name of a span
  | ']' :: rest => some (.withinSpan, rest)
  | _ :: s =>
    let field := s.takeWhile (· != '\x7d')
    match s.drop field.length with
    | '\x7d' :: ']' :: rest =>
      -- with a span in front, the field is one of that span
      (Condition.ofField? field).map fun c => (if name.isEmpty then c else .withinSpan, rest)
    | _ => none
  | [] => none

/-- The level that follows the brackets, if there is one; nothing else but blanks may follow. -/
def levelAfter? (s : List Char) : Option (Option (List Char)) :=
  match s with
  | '=' :: level => some (some level)
  | _ => if s.all Text.isBlank then some none else none

/-- Whether a directive may begin with a character, if it does not begin with a bracket. -/
def isWordStart (c : Char) : Bool :=
  c = '-' || c = ':' || c = '_' || Text.isAlphanumeric c

/-- The pieces of a text that begins with one of them. -/
def Clauses.ofChars? (cs : List Char) : Option Clauses :=
  let word := cs.takeWhile fun c => c != '=' && c != '['
  if word.head?.any isWordStart || cs.head? = some '[' then
    match cs.drop word.length with
    | [] => some ⟨word, .anything, none⟩
    | '[' :: s => do
      let (condition, rest) ← readCondition s
      let level ← levelAfter? rest
      some ⟨word, condition, level⟩
    | _ :: level => some ⟨word, .anything, some level⟩
  else none

/-- The directive that some pieces make up. -/
def Clauses.toDirective? (c : Clauses) : Option Directive :=
  match c.level with
  -- an equals sign with nothing behind it
  | some [] => some ⟨c.word, c.condition, showAll⟩
  | some level => (thresholdOf? level).map (⟨c.word, c.condition, ·⟩)
  | none =>
    -- a word alone is a level if it can be read as one
    match c.condition, thresholdOf? c.word with
    | .anything, some threshold => some ⟨[], .anything, threshold⟩
    | condition, _ => some ⟨c.word, condition, showAll⟩

/-- The directive that a text spells.  Blanks in front of it count as the front of a part, of which
    there is none, and a level cannot follow them. -/
def Directive.ofChars? (cs : List Char) : Option Directive :=
  if cs.head?.any Text.isBlank then
    (Clauses.ofChars? (cs.dropWhile Text.isBlank)).bind fun c =>
      -- the part begins with a blank, and no report comes from such a part
      if c.level.isNone then some ⟨cs, c.condition, showAll⟩ else none
  else (Clauses.ofChars? cs).bind Clauses.toDirective?

end BuildInjection.Log
