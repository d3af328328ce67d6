import BuildInjection.Text.Scan

/-!
# Dates and times

A date, a time of day, or both, in the second case with or without the offset from universal time.
They are read in the spellings that the format allows and written in one: a `T` between date and
time, seconds always, no zeros at the end of a fraction, and `Z` in upper case.
-/

namespace BuildInjection.Toml

/-- A day of the calendar. -/
structure Date where
  year : Nat
  month : Nat
  day : Nat
deriving DecidableEq, Repr

/-- A time of day. -/
structure Time where
  hour : Nat
  minute : Nat
  second : Nat := 0
  nanos : Nat := 0
deriving DecidableEq, Repr

/-- The distance from universal time. -/
inductive Offset where
  /-- Universal time itself. -/
  | zulu
  /-- Some minutes before it or after it. -/
  | minutes (negative : Bool) (count : Nat)
deriving DecidableEq, Repr

/-- A date, a time, or both. -/
inductive DateTime where
  | date (d : Date)
  | time (t : Time)
  | both (d : Date) (t : Time) (offset : Option Offset)
deriving DecidableEq, Repr

/-! ## Reading -/

/-- The number that some digits spell, if there are digits and nothing else. -/
def digits? (cs : List Char) : Option Nat :=
  -- a sign or a digit of another script is no digit here
  if !cs.isEmpty && cs.all Char.isDigit then some (Text.number 10 cs) else none

namespace Date

/-- Whether a year has a 29th of February. -/
def isLeapYear (year : Nat) : Bool :=
  year % 4 = 0 && (year % 100 != 0 || year % 400 = 0)

/-- The number of days of a month. -/
def daysOfMonth (year month : Nat) : Nat :=
  if month = 2 then if isLeapYear year then 29 else 28
  else if month = 4 || month = 6 || month = 9 || month = 11 then 30
  else 31

/-- Whether there is such a day. -/
def isValid (d : Date) : Bool :=
  1 ≤ d.month && d.month ≤ 12 && 1 ≤ d.day && d.day ≤ daysOfMonth d.year d.month

/-- Read a date: four digits, two and two, with hyphens between them. -/
def read : List Char → Option (Date × List Char)
  | y₁ :: y₂ :: y₃ :: y₄ :: '-' :: m₁ :: m₂ :: '-' :: d₁ :: d₂ :: rest => do
    let year ← digits? [y₁, y₂, y₃, y₄]
    let month ← digits? [m₁, m₂]
    let day ← digits? [d₁, d₂]
    if isValid ⟨year, month, day⟩ then some (⟨year, month, day⟩, rest) else none
  | _ => none

end Date

namespace Time

/-- Whether there is such a time; the last minute of a day may have a second more. -/
def isValid (t : Time) : Bool :=
  t.hour ≤ 23 && t.minute ≤ 59 && t.second ≤ 60

/-- The billionths of a second that some decimal places stand for; places after the ninth are
    dropped. -/
def nanosOfPlaces (places : List Char) : Nat :=
  -- zeros behind do not change a fraction
  Text.number 10 ((places ++ List.replicate 9 '0').take 9)

/-- Read the decimal places of the seconds, if there are any. -/
def readPlaces : List Char → Option (Nat × List Char)
  | '.' :: s =>
    let places := s.takeWhile Char.isDigit
    if places.isEmpty then none else some (nanosOfPlaces places, s.dropWhile Char.isDigit)
  | s => some (0, s)

/-- Read the seconds, if there are any. -/
def readSeconds : List Char → Option ((Nat × Nat) × List Char)
  | ':' :: s₁ :: s₂ :: s => do
    let second ← digits? [s₁, s₂]
    let (nanos, rest) ← readPlaces s
    some ((second, nanos), rest)
  -- seconds may be left out, and then there are no decimal places
  | s => some ((0, 0), s)

/-- Read a time of day: hours and minutes, and seconds if they are there. -/
def read : List Char → Option (Time × List Char)
  | h₁ :: h₂ :: ':' :: m₁ :: m₂ :: s => do
    let hour ← digits? [h₁, h₂]
    let minute ← digits? [m₁, m₂]
    let ((second, nanos), rest) ← readSeconds s
    if isValid ⟨hour, minute, second, nanos⟩ then some (⟨hour, minute, second, nanos⟩, rest)
    else none
  | _ => none

end Time

/-- The offset that a whole text spells. -/
def Offset.ofChars? : List Char → Option Offset
  | ['Z'] | ['z'] => some .zulu
  | [sign, h₁, h₂, ':', m₁, m₂] => do
    let hours ← digits? [h₁, h₂]
    let minutes ← digits? [m₁, m₂]
    if (sign = '+' || sign = '-') && hours ≤ 23 && minutes ≤ 59 then
      some (.minutes (sign = '-') (60 * hours + minutes)) else none
  | _ => none

namespace DateTime

/-- The time and the offset that a whole text spells; the offset may be left out. -/
def timeAndOffset? (s : List Char) : Option (Time × Option Offset) :=
  (Time.read s).bind fun (t, rest) =>
    if rest.isEmpty then some (t, none) else (Offset.ofChars? rest).map fun o => (t, some o)

/-- The date or time that a whole text spells. -/
def ofChars? (s : List Char) : Option DateTime :=
  match Date.read s with
  | some (d, []) => some (.date d)
  | some (d, separator :: s) =>
    if separator = 'T' || separator = 't' || separator = ' ' then
      (timeAndOffset? s).map fun (t, o) => .both d t o
    else none
  | none =>
    match Time.read s with
    | some (t, []) => some (.time t)
    | _ => none

/-! ## Writing -/

/-- A number with at least so many digits. -/
def padded (width n : Nat) : List Char :=
  let ds := Nat.toDigits 10 n
  List.replicate (width - ds.length) '0' ++ ds

/-- The decimal places of the seconds, without zeros at the end. -/
def placesChars (nanos : Nat) : List Char :=
  if nanos = 0 then [] else '.' :: ((padded 9 nanos).reverse.dropWhile (· = '0')).reverse

/-- A date as it is written. -/
def dateChars (d : Date) : List Char :=
  padded 4 d.year ++ '-' :: padded 2 d.month ++ '-' :: padded 2 d.day

/-- A time as it is written. -/
def timeChars (t : Time) : List Char :=
  padded 2 t.hour ++ ':' :: padded 2 t.minute ++ ':' :: padded 2 t.second ++ placesChars t.nanos

/-- An offset as it is written; there is no negative offset of no minutes. -/
def offsetChars : Offset → List Char
  | .zulu => ['Z']
  | .minutes negative count =>
    (if negative && count != 0 then '-' else '+') ::
      padded 2 (count / 60) ++ ':' :: padded 2 (count % 60)

/-- A date or time as it is written. -/
def text : DateTime → String
  | .date d => String.ofList (dateChars d)
  | .time t => String.ofList (timeChars t)
  | .both d t offset =>
    String.ofList (dateChars d ++ 'T' :: timeChars t ++ (offset.map offsetChars).getD [])

end DateTime

end BuildInjection.Toml
