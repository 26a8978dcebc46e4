import CollectionTypes.Value.Name

/-!
# Names in order

Texts stand in the order of their characters, numbers in the order of
their size; a text and a number have no order between them. `arrange` puts
things in the order of their names. Things that are all named by texts
can always be arranged. Any others are arranged by comparing as few pairs
as possible – the longest run at the front that is in order already, and
then one thing after the other by halving – so that two names without an
order are met in a definite place.
-/

namespace CollectionTypes

namespace Key

/-- Whether one number is less than another; what is no number is less
than nothing. -/
def less : Key → Key → Bool
  | number p, number q => p < q
  | number _, infinite negative => !negative
  | infinite negative, number _ => negative
  | infinite negative, infinite negative' => negative && !negative'
  | _, _ => false

end Key

namespace Name

/-- The shape of a name. -/
def kind (name : Name) : Kind :=
  name.value.kind

/-- **Whether one name comes before another.** -/
def before (a b : Name) : Except Misuse Bool :=
  match a, b with
  | text s, text t => .ok (s < t)
  | text _, _ => .error (.unordered .text b.kind)
  | _, text _ => .error (.unordered a.kind .text)
  | _, _ => .ok (a.key.less b.key)

end Name

namespace Arrange

variable {α : Type}

/-- The longest run at the front that goes on as it began, latest thing
first, and the things behind it. -/
def run (name : α → Name) (falling : Bool) (last : α) (done : List α) :
    List α → Except Misuse (List α × List α)
  | [] => .ok (last :: done, [])
  | a :: rest => do
    if (← (name a).before (name last)) = falling then
      run name falling a (last :: done) rest
    else return (last :: done, a :: rest)

/-- The place for a thing between two places of a row in order. The fuel
is the distance of the two. -/
def placeFor (name : α → Name) (a : α) (row : List α) :
    Nat → Nat → Nat → Except Misuse Nat
  | 0, low, _ => .ok low
  | fuel + 1, low, high =>
    if low < high then
      let mid := (low + high) / 2
      match row[mid]? with
      | none => .ok low
      | some b => do
        if ← (name a).before (name b) then placeFor name a row fuel low mid
        else placeFor name a row fuel (mid + 1) high
    else .ok low

/-- A row in order with one more thing at its place. -/
def insert (name : α → Name) (row : List α) (a : α) : Except Misuse (List α) := do
  let place ← placeFor name a row row.length 0 row.length
  return row.take place ++ a :: row.drop place

/-- Things in the order of their names, whatever names those are. -/
def byHalving (name : α → Name) : List α → Except Misuse (List α)
  | a :: b :: rest => do
    let falling ← (name b).before (name a)
    let (backwards, behind) ← run name falling b [a] rest
    behind.foldlM (insert name) (if falling then backwards else backwards.reverse)
  | as => .ok as

end Arrange

/-- Whether the text that names one thing is at most that of another. -/
def Name.notAfter (a b : Name) : Bool :=
  decide (a.text?.getD "" ≤ b.text?.getD "")

/-- **Things in the order of their names.** -/
def arrange {α : Type} (name : α → Name) (as : List α) : Except Misuse (List α) :=
  if as.all fun a => (name a).text?.isSome then
    .ok (as.mergeSort fun a b => (name a).notAfter (name b))
  else Arrange.byHalving name as

/-- **Things named by texts can always be arranged.** -/
theorem arrange_of_texts {α : Type} (name : α → Name) (as : List α)
    (h : ∀ a ∈ as, (name a).text?.isSome = true) :
    arrange name as = .ok (as.mergeSort fun a b => (name a).notAfter (name b)) := by
  unfold arrange
  rw [if_pos (List.all_eq_true.mpr h)]

end CollectionTypes
