import CollectionTypes.Text.Cut

/-!
# Internet addresses

A host may be given by its address: four numbers with full stops between
them (`isVersion4`), or up to eight groups of digits in base sixteen with
colons between them, where two colons once stand for groups of zeros and
the last two groups may be written as four numbers (`isVersion6`).
-/

namespace CollectionTypes.Address

open Text

/-- A number from 0 to 255 without a zero in front. -/
def isByte (cs : List Char) : Bool :=
  !cs.isEmpty && cs.all Char.isDigit && cs.length ≤ 3
    && (cs == ['0'] || cs.head? != some '0')
    && cs.foldl (fun n c => 10 * n + (c.toNat - 48)) 0 ≤ 255

/-- **Four numbers.** -/
def isVersion4 (cs : List Char) : Bool :=
  let parts := cutAt '.' cs
  parts.length == 4 && parts.all isByte

/-- A digit in base sixteen. -/
def isHexDigit (c : Char) : Bool :=
  c.isDigit || ('a' ≤ c && c ≤ 'f') || ('A' ≤ c && c ≤ 'F')

/-- A group of digits in base sixteen. -/
def isGroup (cs : List Char) : Bool :=
  !cs.isEmpty && cs.length ≤ 4 && cs.all isHexDigit

/-- The groups of an address, four numbers at the end being two groups;
`none` if what stands there is not four numbers. -/
def groups? (cs : List Char) : Option (List (List Char)) :=
  let parts := cutAt ':' cs
  match parts.getLast? with
  | none => none
  | some last =>
    if last.contains '.' then
      if isVersion4 last then some (parts.dropLast ++ [['0'], ['0']]) else none
    else some parts

/-- The places of empty groups that are not at an end. -/
def innerGaps (parts : List (List Char)) : List Nat :=
  (List.range parts.length).filter fun i =>
    0 < i && i + 1 < parts.length && (parts[i]?.map List.isEmpty).getD false

/-- Groups with a gap at a place that stands for at least one group. -/
def fitAround (parts : List (List Char)) (gap : Nat) : Bool :=
  let high := parts.take gap
  let low := parts.drop (gap + 1)
  let high := if high == [[]] then [] else high
  let low := if low == [[]] then [] else low
  high.all isGroup && low.all isGroup && high.length + low.length < 8

/-- **Groups**, with at most one gap. -/
def areGroups (parts : List (List Char)) : Bool :=
  3 ≤ parts.length && parts.length ≤ 9 &&
    match innerGaps parts with
    | [] => parts.length == 8 && parts.all isGroup
    | [gap] => fitAround parts gap
    | _ => false

/-- The address without its zone; `none` if the zone is empty or cut in
two. -/
def withoutZone? (cs : List Char) : Option (List Char) :=
  if cs.contains '%' then
    let zone := behind '%' cs
    if zone.isEmpty || zone.contains '%' then none else some (before '%' cs)
  else some cs

/-- **An address of eight groups**, perhaps with a zone. -/
def isVersion6 (cs : List Char) : Bool :=
  ((withoutZone? cs).bind groups?).elim false areGroups

end CollectionTypes.Address
