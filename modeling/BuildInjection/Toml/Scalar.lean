import BuildInjection.Toml.Value

/-!
# Scalars

The values that are written without quotes or brackets: booleans, numbers, dates and times.
-/

namespace BuildInjection.Toml

/-- The digits of a run in which single underscores may stand between digits. -/
def ungrouped? (isDigit : Char → Bool) : List Char → Option (List Char)
  | [] => none
  | [c] => if isDigit c then some [c] else none
  | c :: '_' :: cs => if isDigit c then (ungrouped? isDigit cs).map (c :: ·) else none
  | c :: cs => if isDigit c then (ungrouped? isDigit cs).map (c :: ·) else none

/-- The digits of a whole part: a zero stands in front of others nowhere. -/
def wholePart? (s : List Char) : Option (List Char) :=
  (ungrouped? Char.isDigit s).bind fun
    | '0' :: _ :: _ => none
    | ds => some ds

/-- The sign of a number, and what follows it. -/
def splitSign : List Char → Bool × List Char
  | '+' :: s => (false, s)
  | '-' :: s => (true, s)
  | s => (false, s)

/-- An integer, if it fits 64 bits with a sign. -/
def integer? (negative : Bool) (n : Nat) : Option Value :=
  -- the least integer has no positive counterpart
  if negative then if n ≤ 1 <<< 63 then some (.integer (-n)) else none
  else if n < 1 <<< 63 then some (.integer n) else none

/-- Whether a character is a binary digit. -/
def isBinaryDigit (c : Char) : Bool := c = '0' || c = '1'

/-- Whether a character is an octal digit. -/
def isOctalDigit (c : Char) : Bool := '0' ≤ c && c ≤ '7'

/-- The integer of some digits of a base. -/
def basedInteger? (base : Nat) (isDigit : Char → Bool) (s : List Char) : Option Value :=
  (ungrouped? isDigit s).bind fun ds => integer? false (Text.number base ds)

/-- The exponent that follows an `e`. -/
def exponent? (s : List Char) : Option Int :=
  let (negative, s) := splitSign s
  (ungrouped? Char.isDigit s).map fun ds =>
    let n : Int := Text.number 10 ds
    if negative then -n else n

/-- What follows a separator, if the separator is there. -/
def after? (isSep : Char → Bool) (s : List Char) : Option (List Char) :=
  (s.dropWhile (!isSep ·)).tail?

/-- Whether a character introduces an exponent. -/
def isExponentMark (c : Char) : Bool := c = 'e' || c = 'E'

/-- The number of a whole part, decimal places and an exponent, of which the last two may be
    missing, one of them or both. -/
def decimal? (negative : Bool) (s : List Char) : Option Value := do
  let mantissa := s.takeWhile (!isExponentMark ·)
  let whole ← wholePart? (mantissa.takeWhile (· != '.'))
  match after? (· = '.') mantissa, after? isExponentMark s with
  -- without places and exponent it is an integer
  | none, none => integer? negative (Text.number 10 whole)
  | places, exponent =>
    let places ← (places.map (ungrouped? Char.isDigit)).getD (some [])
    let exponent ← (exponent.map exponent?).getD (some 0)
    let x := Binary64.ofDecimal negative (Text.number 10 (whole ++ places))
      (exponent - places.length)
    -- a number that is too large is refused and not rounded to infinity
    if x.isInfinite then none else some (.float x)

/-- The number that follows a sign. -/
def signed? (negative : Bool) : List Char → Option Value
  | ['i', 'n', 'f'] => some (.float (.infinite negative))
  | ['n', 'a', 'n'] => some (.float .nan)
  | s => decimal? negative s

/-- The number that a whole text spells.  A number with a base has no sign. -/
def number? : List Char → Option Value
  | '0' :: 'x' :: s => basedInteger? 16 Text.isHexDigit s
  | '0' :: 'o' :: s => basedInteger? 8 isOctalDigit s
  | '0' :: 'b' :: s => basedInteger? 2 isBinaryDigit s
  | s => signed? (splitSign s).1 (splitSign s).2

/-- The value that a whole text without quotes or brackets spells. -/
def scalar? : List Char → Option Value
  | ['t', 'r', 'u', 'e'] => some (.boolean true)
  | ['f', 'a', 'l', 's', 'e'] => some (.boolean false)
  -- a date looks like the beginning of a number, so it comes first
  | s => ((DateTime.ofChars? s).map .datetime).or (number? s)

end BuildInjection.Toml
