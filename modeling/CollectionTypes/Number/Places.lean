import CollectionTypes.Number.Shortest

/-!
# Decimals of a fixed length

A binary number is not only written with as few digits as possible
(`shown`), but also to a given number of places behind the point (`fixed`),
or to a given number of digits with an exponent (`scientific`). `general`
takes whichever of the two suits the size of the number. All round to the
nearest decimal, a tie going to the even digit.
-/

namespace CollectionTypes.Binary64

/-- Digits with a point before the last few of them. A point with nothing
behind it is only written if it is asked for. -/
def pointed (pointKept : Bool) (places : Nat) (digits : List Char) : List Char :=
  let digits := List.replicate (places + 1 - digits.length) '0' ++ digits
  let front := digits.take (digits.length - places)
  let back := digits.drop (digits.length - places)
  if back.isEmpty && !pointKept then front else front ++ '.' :: back

/-- **The fraction `n / d` to a number of places.** -/
def fixed (pointKept : Bool) (places n d : Nat) : List Char :=
  pointed pointKept places (Nat.toDigits 10 (roundToEven (n * Nat.pow 10 places) d))

/-- The fraction `n / d` rounded to one digit and a number of places: its
digits as one number, and the power of ten that the first of them stands
for. -/
def leading (places n d : Nat) : Nat × Int :=
  if n = 0 then (0, 0)
  else
    let e := decimalExponent n d - 1
    let shift := (places : Int) - e
    let digits := roundToEven (n * Nat.pow 10 shift.toNat) (d * Nat.pow 10 (-shift).toNat)
    if digits = Nat.pow 10 (places + 1) then (Nat.pow 10 places, e + 1) else (digits, e)

/-- **The fraction `n / d` with one digit before the point**, a number of
places and some more zeros behind it, and an exponent. -/
def scientific (pointKept : Bool) (places zeros n d : Nat) : List Char :=
  let (digits, e) := leading places n d
  pointed pointKept places (Nat.toDigits 10 digits) ++ List.replicate zeros '0'
    ++ (exponentText e).toList

/-- Digits with a point, without the zeros at the end. -/
def withoutZeros (cs : List Char) : List Char :=
  if cs.contains '.' then
    let kept := (dropZeros cs).1
    if kept.getLast? = some '.' then kept.dropLast else kept
  else cs

/-- **The fraction `n / d` to a number of digits**: with an exponent only
if it is below `10 ^ -4` or has more digits before the point than are
asked for. The zeros at the end are kept if they are asked for. -/
def general (zerosKept : Bool) (digits n d : Nat) : List Char :=
  let digits := max digits 1
  let tidy := if zerosKept then id else withoutZeros
  let (m, e) := leading (digits - 1) n d
  if e < -4 ∨ digits ≤ e then
    tidy (pointed zerosKept (digits - 1) (Nat.toDigits 10 m)) ++ (exponentText e).toList
  else tidy (fixed zerosKept ((digits : Int) - 1 - e).toNat n d)

end CollectionTypes.Binary64
