/-!
# Binary floating point numbers of 64 bits

A finite number is a mantissa of at most 53 bits times a power of two.  `Binary64.ofDecimal` gives
the number nearest to a decimal, in exact arithmetic; of two equally near ones it takes the one
with the even mantissa.
-/

namespace BuildInjection

/-- A floating point number of 64 bits. -/
inductive Binary64 where
  /-- The number `mantissa * 2 ^ exponent`, with its sign. -/
  | finite (negative : Bool) (mantissa : Nat) (exponent : Int)
  /-- An infinity. -/
  | infinite (negative : Bool)
  /-- No number. -/
  | nan
deriving DecidableEq, Repr

namespace Binary64

/-- The power of a base as a fraction: numerator and denominator. -/
def power (base : Nat) (exponent : Int) : Nat × Nat :=
  (Nat.pow base exponent.toNat, Nat.pow base (-exponent).toNat)

/-- Which of two equally near neighbours is taken. -/
inductive Tie where
  /-- The even one. -/
  | toEven
  /-- The larger one. -/
  | up
deriving DecidableEq, Repr

/-- The natural number nearest to a quotient. -/
def roundDiv (tie : Tie) (num den : Nat) : Nat :=
  let q := num / den
  let r := num % den
  if 2 * r < den || (2 * r = den && tie = .toEven && q % 2 = 0) then q else q + 1

/-- A rounded quotient is off by half a unit at most. -/
theorem roundDiv_near (tie : Tie) (num : Nat) {den : Nat} (hden : 0 < den) :
    2 * num ≤ 2 * (roundDiv tie num den * den) + den ∧
      2 * (roundDiv tie num den * den) ≤ 2 * num + den := by
  have hdiv : num / den * den + num % den = num := Nat.div_add_mod' num den
  have hmod := Nat.mod_lt num hden
  simp only [roundDiv]
  split
  · rename_i h
    simp only [Bool.or_eq_true, Bool.and_eq_true, decide_eq_true_eq] at h
    omega
  · rename_i h
    simp only [Bool.or_eq_true, Bool.and_eq_true, decide_eq_true_eq, not_or] at h
    rw [Nat.add_mul]
    omega

/-- The number of places of a natural number in the decimal system. -/
def places (n : Nat) : Nat := (Nat.toDigits 10 n).length

/-- The largest `t` with `2 ^ t ≤ num / den`, where neither is zero. -/
def floorLog2 (num den : Nat) : Int :=
  -- The quotient lies strictly between `2 ^ (guess - 1)` and `2 ^ (guess + 1)`.
  let guess : Int := (num.log2 : Int) - den.log2
  let (up, down) := power 2 guess
  if den * up ≤ num * down then guess else guess - 1

/-- The least mantissa of 53 bits. -/
def leastMantissa : Nat := 1 <<< 52

/-- The exponent of the least power of two that is representable. -/
def leastExponent : Int := -1074

/-- The exponent of the largest numbers. -/
def greatestExponent : Int := 971

/-- The number nearest to a fraction that is not zero. -/
def ofFraction (negative : Bool) (num den : Nat) : Binary64 :=
  let exponent := max (floorLog2 num den - 52) leastExponent
  let (up, down) := power 2 exponent
  let mantissa := roundDiv .toEven (num * down) (den * up)
  -- Rounding up may reach the next power of two, which takes one bit more.
  let (mantissa, exponent) :=
    if mantissa = 2 * leastMantissa then (leastMantissa, exponent + 1) else (mantissa, exponent)
  if exponent > greatestExponent then .infinite negative else .finite negative mantissa exponent

/-- The number nearest to `digits * 10 ^ exponent`.  Powers that are far outside the range are not
    computed. -/
def ofDecimal (negative : Bool) (digits : Nat) (exponent : Int) : Binary64 :=
  let size := exponent + places digits
  if digits = 0 || size < -330 then .finite negative 0 0
  else if size > 310 then .infinite negative
  else
    let (up, down) := power 10 exponent
    ofFraction negative (digits * up) down

/-- Whether a number is infinite. -/
def isInfinite : Binary64 → Bool
  | .infinite _ => true
  | _ => false

end Binary64

end BuildInjection
