import CollectionTypes.Text.Size
import CollectionTypes.Value.Basic

/-!
# Slots for values

A slot in a text begins with a percent sign and ends with a letter.
Between the two stand flags, a width, a full stop with a precision, and a
length that says nothing, all of which may be missing. A star in place of
the width or the precision takes it from the values. Both have a bound.
`Slot.read` reads what stands before the letter; `filled` and `signed` lay
out what goes into a slot.
-/

namespace CollectionTypes.Text

/-- **A slot.** -/
structure Slot where
  /-- Whether what is put in stands at the left. -/
  left : Bool := false
  /-- Whether a number that is not negative gets a plus sign. -/
  plus : Bool := false
  /-- Whether it gets a space instead. -/
  space : Bool := false
  /-- Whether a number is filled up with zeros. -/
  zero : Bool := false
  /-- Whether a number is written in its longer form. -/
  long : Bool := false
  width : Nat := 0
  precision : Option Nat := none
  deriving DecidableEq, Repr

/-- **What a slot counts**: the characters that it takes at least, or the
digits that it shows. -/
inductive Count where
  | width
  | precision
  deriving DecidableEq, Repr

/-- The least number that is too large for a count. -/
def Count.bound : Count → Nat
  | width => countLimit
  | precision => Nat.pow 2 31

/-- **Why the front of a slot cannot be read.** -/
inductive SlotError where
  /-- A star with no value left for it. -/
  | noCount
  /-- A star whose value is no whole number. -/
  | badCount
  /-- A count that is written and too large. -/
  | tooBig (c : Count)
  /-- A count that is taken from the values and too large. -/
  | tooLarge (c : Count)
  deriving DecidableEq, Repr

namespace Slot

/-- The flags at the front, and the characters behind them. -/
def takeFlags (p : Slot) : List Char → Slot × List Char
  | '-' :: rest => takeFlags { p with left := true } rest
  | '+' :: rest => takeFlags { p with plus := true } rest
  | ' ' :: rest => takeFlags { p with space := true } rest
  | '0' :: rest => takeFlags { p with zero := true } rest
  | '#' :: rest => takeFlags { p with long := true } rest
  | rest => (p, rest)

/-- The count at the front, written in digits or taken from the values for
a star, and what is left of both. -/
def takeCount (c : Count) (cs : List Char) (vs : List Value) :
    Except SlotError (Int × List Char × List Value) :=
  match cs with
  | '*' :: rest =>
    match vs with
    | [] => .error .noCount
    | .int n :: vs =>
      if n < -(c.bound : Int) ∨ (c.bound : Int) ≤ n then .error (.tooLarge c)
      else .ok (n, rest, vs)
    | .bool b :: vs => .ok (if b then 1 else 0, rest, vs)
    | _ => .error .badCount
  | _ =>
    let n := (cs.takeWhile Char.isDigit).foldl (fun n d => 10 * n + (d.toNat - 48)) 0
    if c.bound ≤ n then .error (.tooBig c) else .ok (n, cs.dropWhile Char.isDigit, vs)

/-- The slot with a width; a negative one asks for the left. -/
def withWidth (p : Slot) (n : Int) : Slot :=
  { p with width := n.natAbs, left := p.left || n < 0 }

/-- The slot with the precision that follows a full stop, if there is
one, and what is left. A negative one counts as zero. -/
def takePrecision (p : Slot) (cs : List Char) (vs : List Value) :
    Except SlotError (Slot × List Char × List Value) :=
  match cs with
  | '.' :: rest => do
    let (n, rest, vs) ← takeCount .precision rest vs
    return ({ p with precision := some n.toNat }, rest, vs)
  | _ => .ok (p, cs, vs)

/-- The characters without a length at the front. -/
def dropLength : List Char → List Char
  | [] => []
  | c :: rest => if c = 'h' ∨ c = 'l' ∨ c = 'L' then rest else c :: rest

/-- **The slot that characters begin with**, and what is left of the
characters and of the values. -/
def read (cs : List Char) (vs : List Value) :
    Except SlotError (Slot × List Char × List Value) := do
  let (p, rest) := takeFlags {} cs
  let (n, rest, vs) ← takeCount .width rest vs
  let (p, rest, vs) ← takePrecision (p.withWidth n) rest vs
  return (p, dropLength rest, vs)

/-- Characters filled up with spaces to the width. -/
def filled (p : Slot) (cs : List Char) : List Char :=
  let spaces := List.replicate (p.width - cs.length) ' '
  if p.left then cs ++ spaces else spaces ++ cs

/-- A text, cut to the precision. -/
def cut (p : Slot) (s : String) : List Char :=
  p.filled (match p.precision with
    | some n => s.toList.take n
    | none => s.toList)

/-- The sign of a number. -/
def sign (p : Slot) (negative : Bool) : List Char :=
  if negative then ['-'] else if p.plus then ['+'] else if p.space then [' '] else []

/-- A number in its sign and its digits, filled up with zeros between them
or with spaces. -/
def signed (p : Slot) (front digits : List Char) : List Char :=
  let zeros :=
    if p.zero && !p.left then
      List.replicate (p.width - (front.length + digits.length)) '0'
    else []
  p.filled (front ++ zeros ++ digits)

end Slot

end CollectionTypes.Text
