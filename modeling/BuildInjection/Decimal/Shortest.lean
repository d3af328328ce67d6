import BuildInjection.Decimal.Binary64

/-!
# Shortest decimals

A finite number is written with the fewest digits that read back as the same number, and with the
nearest such digits; of two equally near ones the larger is written.  All places are written out,
without an exponent, and a whole number ends in `.0`.
-/

namespace BuildInjection.Binary64

/-- A range of decimals: the fractions between `low / den` and `high / den` read back as the number
    `value / den`, and the ends do so too if `closed` holds. -/
structure Interval where
  low : Nat
  value : Nat
  high : Nat
  den : Nat
  closed : Bool

/-- The decimals that read back as `mantissa * 2 ^ exponent`.  Below a power of two the numbers lie
    closer together. -/
def interval (mantissa : Nat) (exponent : Int) : Interval :=
  -- Counted in quarters of the step between neighbours, both ends are whole.
  let (up, down) := power 2 (exponent - 2)
  let below := if mantissa = leastMantissa && exponent > leastExponent then 1 else 2
  { low := (4 * mantissa - below) * up
    value := 4 * mantissa * up
    high := (4 * mantissa + 2) * up
    den := down
    closed := mantissa % 2 = 0 }

/-- The largest `t` with `10 ^ t ≤ num / den`, where neither is zero. -/
def floorLog10 (num den : Nat) : Int :=
  -- The quotient lies strictly between `10 ^ (guess - 1)` and `10 ^ (guess + 1)`.
  let guess : Int := (places num : Int) - places den
  let (up, down) := power 10 guess
  if den * up ≤ num * down then guess else guess - 1

/-- Whether `digits * 10 ^ exponent` lies in an interval. -/
def Interval.contains (i : Interval) (digits : Nat) (exponent : Int) : Bool :=
  let (up, down) := power 10 exponent
  let x := digits * up * i.den
  if i.closed then i.low * down ≤ x && x ≤ i.high * down
  else i.low * down < x && x < i.high * down

/-- The multiple of `10 ^ exponent` in an interval that is nearest to its value, if the interval
    contains a neighbour of the value on that grid. -/
def Interval.nearest? (i : Interval) (exponent : Int) : Option Nat :=
  let (up, down) := power 10 exponent
  let below := i.value * down / (i.den * up)
  let nearest := roundDiv .up (i.value * down) (i.den * up)
  [nearest, below, below + 1].find? (i.contains · exponent)

/-- The digits and the exponent of the shortest decimal in an interval; 17 digits always suffice. -/
def Interval.shortest (i : Interval) : Nat × Int :=
  let top := floorLog10 i.value i.den
  let grids := (List.range 17).map fun (k : Nat) => top - (k : Int)
  (grids.findSome? fun exponent => (i.nearest? exponent).map (·, exponent)).getD (0, 0)

/-- The places of a number after the point, without zeros at the end; one place at least. -/
def fractionText (digits : List Char) : List Char :=
  match (digits.reverse.dropWhile (· = '0')).reverse with
  | [] => ['0']
  | ds => ds

/-- The decimal `digits * 10 ^ exponent` with all its places. -/
def placesText (digits : Nat) (exponent : Int) : String :=
  let ds := Nat.toDigits 10 digits
  if 0 ≤ exponent then
    String.ofList (ds ++ List.replicate exponent.toNat '0' ++ ['.', '0'])
  else
    let after := (-exponent).toNat
    let ds := List.replicate (after + 1 - ds.length) '0' ++ ds
    String.ofList (ds.take (ds.length - after) ++
      '.' :: fractionText (ds.drop (ds.length - after)))

/-- The text of a number, where `nanText` is what stands for no number. -/
def text (nanText : String) : Binary64 → String
  | .nan => nanText
  | .infinite negative => if negative then "-inf" else "inf"
  | .finite negative mantissa exponent =>
    let sign := if negative then "-" else ""
    if mantissa = 0 then sign ++ "0.0"
    else
      let (digits, exponent) := (interval mantissa exponent).shortest
      sign ++ placesText digits exponent

end BuildInjection.Binary64
