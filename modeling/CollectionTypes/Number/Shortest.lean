import CollectionTypes.Number.Binary64

/-!
# The shortest decimal of a floating-point number

`shortest` gives the decimal fraction with the fewest digits that still
rounds to a given binary number, and among those the one nearest to it.
The reals that round to `m · 2 ^ e` form an interval, which holds its ends
exactly when `m` is even. On the grid of decimals with `n` digits only the
two neighbours of the number can be nearest in that interval, so the grids
are tried in turn, `n = 1, 2, …, 17`, and the first with a hit wins.

`shown` lays the digits out: positional from `0.0001` up to below
`10 ^ 16`, always with a point, and otherwise with an exponent of at least
two digits.
-/

namespace CollectionTypes.Binary64

/-- The number of decimal digits of a number. -/
def decimalLength (n : Nat) : Nat :=
  (Nat.toDigits 10 n).length

/-- The least `k` with `num / den < 10 ^ k`, for a positive fraction. -/
def decimalExponent (num den : Nat) : Int :=
  if den ≤ num then decimalLength (num / den)
  else 1 - (decimalLength ((den + num - 1) / num - 1) : Int)

/-- The reals that round to one binary number, in quarters of its last
place, and what a quarter is. -/
structure Interval where
  /-- The lower end. -/
  low : Nat
  /-- The number itself. -/
  mid : Nat
  /-- The upper end. -/
  high : Nat
  /-- Whether the ends belong to the interval. -/
  closed : Bool
  /-- A quarter is `num / den`. -/
  num : Nat
  /-- The denominator of a quarter. -/
  den : Nat

/-- The interval around `m · 2 ^ e`. Below a power of two the numbers lie
twice as close. -/
def Interval.around (m : Nat) (e : Int) : Interval :=
  let (n, d) := shiftRight 1 1 (2 - e)
  { low := 4 * m - (if m = Nat.pow 2 52 ∧ leastExponent < e then 1 else 2)
    mid := 4 * m
    high := 4 * m + 2
    closed := m % 2 == 0
    num := n
    den := d }

/-- On the grid of multiples of `10 ^ t`: the neighbour of the number that
lies in the interval, the nearer one if both do. -/
def Interval.onGrid (i : Interval) (t : Int) : Option Nat :=
  let up := i.num * Nat.pow 10 (-t).toNat
  let unit := i.den * Nat.pow 10 t.toNat
  let inside (c : Nat) : Bool :=
    if i.closed then i.low * up ≤ c * unit && c * unit ≤ i.high * up
    else i.low * up < c * unit && c * unit < i.high * up
  let below := i.mid * up / unit
  let rest := i.mid * up % unit
  match inside below, inside (below + 1) with
  | true, true =>
    if 2 * rest < unit then some below
    else if unit < 2 * rest then some (below + 1)
    else if below % 2 = 0 then some below else some (below + 1)
  | true, false => some below
  | false, true => some (below + 1)
  | false, false => none

/-- The first grid with a hit, from `10 ^ t` on downwards. -/
def Interval.firstHit (i : Interval) : Nat → Int → Nat × Int
  | 0, t => (i.mid * (i.num * Nat.pow 10 (-t).toNat) / (i.den * Nat.pow 10 t.toNat), t)
  | n + 1, t =>
    match i.onGrid t with
    | some c => (c, t)
    | none => i.firstHit n (t - 1)

/-- **The shortest decimal** `digits · 10 ^ exponent` that rounds to
`m · 2 ^ e`, for a positive mantissa. -/
def shortest (m : Nat) (e : Int) : Nat × Int :=
  let (n, d) := shiftRight m 1 (-e)
  (Interval.around m e).firstHit 17 (decimalExponent n d - 1)

/-- Digits without the zeros at their end, and how many were dropped. -/
def dropZeros (digits : List Char) : List Char × Nat :=
  let kept := (digits.reverse.dropWhile (· == '0')).reverse
  (kept, digits.length - kept.length)

/-- The exponent as written: a sign and at least two digits. -/
def exponentText (e : Int) : String :=
  let digits := toString e.natAbs
  (if e < 0 then "e-" else "e+") ++ (if digits.length < 2 then "0" else "") ++ digits

/-- **Digits with a decimal point**: the number is `0.digits · 10 ^ point`.
Positional where that stays short, else with an exponent. -/
def layOut (digits : List Char) (point : Int) : String :=
  if -4 < point ∧ point ≤ 16 then
    if point ≤ 0 then
      "0." ++ String.ofList (List.replicate (-point).toNat '0' ++ digits)
    else if digits.length ≤ point.toNat then
      String.ofList (digits ++ List.replicate (point.toNat - digits.length) '0') ++ ".0"
    else
      String.ofList (digits.take point.toNat) ++ "."
        ++ String.ofList (digits.drop point.toNat)
  else
    let tail := digits.drop 1
    String.ofList (digits.take 1) ++ (if tail.isEmpty then "" else ".")
      ++ String.ofList tail ++ exponentText (point - 1)

/-- **The text of a number**: the shortest decimal that reads back. -/
def shown : Binary64 → String
  | .nan => "nan"
  | .infinite negative => if negative then "-inf" else "inf"
  | .finite negative m e =>
    (if negative then "-" else "") ++
      if m = 0 then "0.0"
      else
        let (digits, t) := shortest m e
        let (kept, dropped) := dropZeros (Nat.toDigits 10 digits)
        layOut kept (kept.length + dropped + t)

end CollectionTypes.Binary64
