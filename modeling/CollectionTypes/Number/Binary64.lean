/-!
# Binary floating-point numbers

A number with a fraction, as JSON texts carry it, is kept as the binary
floating-point number of 64 bits nearest to it. Such a number is a sign, a
mantissa below `2 ^ 53` and a power of two; beyond the largest of them
lies an infinity. Everything here is exact arithmetic on natural numbers:
`ofDecimal` rounds a decimal fraction to the nearest such number, a tie
going to the even mantissa, and `ratio?` gives the number back as a
fraction.
-/

namespace CollectionTypes

/-- **A binary floating-point number**: `± mantissa · 2 ^ exponent`, an
infinity, or no number at all. -/
inductive Binary64 where
  /-- A finite number. -/
  | finite (negative : Bool) (mantissa : Nat) (exponent : Int)
  /-- Beyond the largest finite number. -/
  | infinite (negative : Bool)
  /-- Not a number. -/
  | nan
  deriving DecidableEq, Repr, Inhabited

namespace Binary64

/-- The least exponent of a finite number. -/
def leastExponent : Int := -1074

/-- The greatest exponent of a finite number. -/
def greatestExponent : Int := 971

/-- The zero of a sign. -/
def zero (negative : Bool) : Binary64 :=
  .finite negative 0 leastExponent

/-- `num / den` divided by a power of two, again as numerator and
denominator. -/
def shiftRight (num den : Nat) (e : Int) : Nat × Nat :=
  if 0 ≤ e then (num, den * Nat.pow 2 e.toNat) else (num * Nat.pow 2 (-e).toNat, den)

/-- The whole number nearest to `num / den`; a tie goes to the even one. -/
def roundToEven (num den : Nat) : Nat :=
  let q := num / den
  let r := num % den
  if 2 * r < den then q
  else if den < 2 * r then q + 1
  else if q % 2 = 0 then q else q + 1

/-- The exponent at which `num / den` has a mantissa of 53 bits, or the
least exponent if the number is too small for that. -/
def exponentOf (num den : Nat) : Int :=
  let e : Int := (num.log2 : Int) - den.log2 - 53
  let (n, d) := shiftRight num den e
  max leastExponent (if Nat.pow 2 53 ≤ n / d then e + 1 else e)

/-- The number nearest to `num / den`, for a positive numerator. -/
def ofRatio (negative : Bool) (num den : Nat) : Binary64 :=
  let e := exponentOf num den
  let (n, d) := shiftRight num den e
  let m := roundToEven n d
  -- rounding up may take the mantissa to the next power of two
  let (m, e) := if m = Nat.pow 2 53 then (Nat.pow 2 52, e + 1) else (m, e)
  if greatestExponent < e then .infinite negative else .finite negative m e

/-- **The number nearest to `digits · 10 ^ exponent`.** Far outside the
range of finite numbers the answer needs no arithmetic. -/
def ofDecimal (negative : Bool) (digits : Nat) (exponent : Int) : Binary64 :=
  if digits = 0 then zero negative
  else if 400 < exponent then .infinite negative
  else if exponent + digits.log2 < -400 then zero negative
  else if 0 ≤ exponent then ofRatio negative (digits * Nat.pow 10 exponent.toNat) 1
  else ofRatio negative digits (Nat.pow 10 (-exponent).toNat)

/-- Whether the number is a zero, of either sign. -/
def isZero : Binary64 → Bool
  | .finite _ m _ => m == 0
  | _ => false

/-- The finite number as a fraction. -/
def ratio? : Binary64 → Option Rat
  | .finite negative m e =>
    let (n, d) := shiftRight m 1 (-e)
    some (mkRat (if negative then -(n : Int) else n) d)
  | _ => none

end Binary64

end CollectionTypes
