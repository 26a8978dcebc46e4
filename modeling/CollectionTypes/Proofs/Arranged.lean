import CollectionTypes.Proofs.Outcome
import CollectionTypes.Value.NameOrder
import Mathlib.Data.List.Nodup
import Mathlib.Data.List.Perm.Basic

/-!
# Things in the order of their names

Putting things in order loses none of them and adds none, whatever names
they have (`arrange_perm`); where the names are distinct texts, the order is
strict (`ascending_sortedBy`), and the order in which the things came has no
bearing on it (`sortedBy_eq_of_perm`).

Names that are not all texts are arranged by halving, whose steps move
things about and nothing else; the lemmas say so for each step.
-/

namespace CollectionTypes

variable {α : Type}

/-! ## By a text -/

/-- Things in the order of a text that each has. -/
abbrev sortedBy (f : α → String) (as : List α) : List α :=
  as.mergeSort fun a b => decide (f a ≤ f b)

theorem pairwise_sortedBy (f : α → String) (as : List α) :
    (sortedBy f as).Pairwise fun a b => f a ≤ f b := by
  have h : (sortedBy f as).Pairwise fun a b => decide (f a ≤ f b) = true := by
    refine List.pairwise_mergeSort (fun a b c hab hbc => ?_) (fun a b => ?_) as
    · rw [decide_eq_true_iff] at hab hbc ⊢
      exact String.le_trans hab hbc
    · rw [Bool.or_eq_true, decide_eq_true_iff, decide_eq_true_iff]
      exact String.le_total (f a) (f b)
  exact h.imp fun hab => of_decide_eq_true hab

/-- **Distinct texts stand in strictly ascending order.** -/
theorem ascending_sortedBy {f : α → String} {as : List α} (hd : (as.map f).Nodup) :
    (sortedBy f as).Pairwise fun a b => f a < f b := by
  have hne : (sortedBy f as).Pairwise fun a b => f a ≠ f b := by
    rw [← List.pairwise_map]
    exact ((List.mergeSort_perm as _).map f).nodup_iff.mpr hd
  refine ((pairwise_sortedBy f as).and hne).imp fun {a b} h => ?_
  -- what is not behind and not the same is in front
  exact String.not_le.mp fun hba => h.2 (String.le_antisymm h.1 hba)

/-- **Where the texts are distinct, the order of arrival does not matter.** -/
theorem sortedBy_eq_of_perm {f : α → String} {as bs : List α} (h : as.Perm bs)
    (hd : (as.map f).Nodup) : sortedBy f as = sortedBy f bs := by
  have hperm : (sortedBy f as).Perm (sortedBy f bs) :=
    (List.mergeSort_perm as _).trans (h.trans (List.mergeSort_perm bs _).symm)
  have hd' : (bs.map f).Nodup := (h.map f).nodup_iff.mp hd
  exact hperm.eq_of_pairwise (fun a b _ _ hab hba => absurd hba (String.lt_asymm hab))
    (ascending_sortedBy hd) (ascending_sortedBy hd')

/-! ## By names of any kind -/

namespace Arrange

open Outcome

variable {name : α → Name}

theorem insert_perm {row out : List α} {a : α} (h : insert name row a = .ok out) :
    out.Perm (a :: row) := by
  unfold insert at h
  obtain ⟨place, -, h⟩ := bind_ok_iff.mp h
  cases h
  have hrow : (row.take place ++ a :: row.drop place).Perm
      (a :: (row.take place ++ row.drop place)) := List.perm_middle
  rwa [List.take_append_drop] at hrow

theorem insertAll_perm {behind row out : List α}
    (h : behind.foldlM (insert name) row = .ok out) : out.Perm (behind ++ row) := by
  induction behind generalizing row with
  | nil =>
    cases h
    exact List.Perm.refl _
  | cons a behind ih =>
    rw [List.foldlM_cons] at h
    obtain ⟨row', hrow, h⟩ := bind_ok_iff.mp h
    exact (ih h).trans (((insert_perm hrow).append_left behind).trans List.perm_middle)

theorem run_perm {falling : Bool} {last : α} {done rest : List α} {out : List α × List α}
    (h : run name falling last done rest = .ok out) :
    (out.1 ++ out.2).Perm (last :: done ++ rest) := by
  induction rest generalizing last done with
  | nil =>
    cases h
    exact List.Perm.refl _
  | cons a rest ih =>
    rw [run] at h
    obtain ⟨before, -, h⟩ := bind_ok_iff.mp h
    split at h
    · exact (ih h).trans List.perm_middle.symm
    · cases h
      exact List.Perm.refl _

theorem byHalving_perm {as out : List α} (h : byHalving name as = .ok out) :
    out.Perm as := by
  unfold byHalving at h
  split at h
  · next a b rest =>
    obtain ⟨falling, -, h⟩ := bind_ok_iff.mp h
    obtain ⟨⟨backwards, behind⟩, hrun, h⟩ := bind_ok_iff.mp h
    have hrow : (if falling then backwards else backwards.reverse).Perm backwards := by
      split
      · exact List.Perm.refl _
      · exact backwards.reverse_perm
    refine (insertAll_perm h).trans ((hrow.append_left behind).trans ?_)
    exact List.perm_append_comm.trans ((run_perm hrun).trans (List.Perm.swap a b rest))
  · cases h
    exact List.Perm.refl _

end Arrange

/-- **Arranging loses nothing and adds nothing.** -/
theorem arrange_perm {name : α → Name} {as out : List α} (h : arrange name as = .ok out) :
    out.Perm as := by
  unfold arrange at h
  split at h
  · cases h
    exact List.mergeSort_perm as _
  · exact Arrange.byHalving_perm h

/-- The text of a name; nothing for a name that is none. -/
def Name.shownText (a : Name) : String :=
  a.text?.getD ""

/-- Things named by texts are arranged by these. -/
theorem arrange_eq_sortedBy {name : α → Name} {as : List α}
    (h : ∀ a ∈ as, (name a).text?.isSome = true) :
    arrange name as = .ok (sortedBy (fun a => (name a).shownText) as) :=
  arrange_of_texts name as h

/-! ## By names that are texts -/

/-- One name stands before another: both are texts, and it is less. -/
def Name.Precedes (a b : Name) : Prop :=
  ∃ s t, a = .text s ∧ b = .text t ∧ s < t

theorem Name.eq_text_of_isText {n : Name} (h : n.text?.isSome = true) :
    n = .text n.shownText := by
  cases n with
  | text s => rfl
  | flag b => cases h
  | int i => cases h
  | real x => cases h

theorem Name.isText_of_eq {n : Name} {s : String} (h : n = .text s) :
    n.text?.isSome = true := by
  rw [h]
  rfl

/-- Distinct names that are all texts have distinct texts. -/
theorem nodup_map_shownText {ns : List Name} (hd : ns.Nodup)
    (ht : ∀ n ∈ ns, n.text?.isSome = true) : (ns.map Name.shownText).Nodup := by
  refine List.Nodup.map_on (fun a ha b hb hab => ?_) hd
  rw [Name.eq_text_of_isText (ht a ha), hab, ← Name.eq_text_of_isText (ht b hb)]

/-- **Things with distinct texts for names stand in strictly ascending
order** once they are put in order. -/
theorem precedes_sortedBy {α : Type} {name : α → Name} {as : List α}
    (hd : (as.map name).Nodup) (ht : ∀ a ∈ as, (name a).text?.isSome = true) :
    (sortedBy (fun a => (name a).shownText) as).Pairwise
      fun a b => (name a).Precedes (name b) := by
  have htexts : (as.map fun a => (name a).shownText).Nodup := by
    have h := nodup_map_shownText hd (List.forall_mem_map.mpr ht)
    rwa [List.map_map] at h
  refine (ascending_sortedBy htexts).imp_of_mem fun {a b} ha hb hab => ?_
  have hta := ht a (List.mem_mergeSort.mp ha)
  have htb := ht b (List.mem_mergeSort.mp hb)
  exact ⟨_, _, Name.eq_text_of_isText hta, Name.eq_text_of_isText htb, hab⟩

end CollectionTypes
