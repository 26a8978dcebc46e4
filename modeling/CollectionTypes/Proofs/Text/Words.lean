import CollectionTypes.Naming.TypeName
import Mathlib.Data.List.Basic

/-!
# Words put together

Where words are put together nothing is left of what stood between them: a type name
holds no separator (`not_isSeparator_of_mem_typeName`). Its words are cut out between
separators, and no character has a separator in its upper-case form
(`not_isSeparator_of_mem_upper`), as the tables of upper case show.
-/

namespace CollectionTypes.Naming

/-- The ranges of separators: white space, the underscore, and the hyphen. -/
def separatorRanges : List (Nat × Nat) :=
  Text.blankRanges ++ [(95, 95), (45, 45)]

theorem isSeparator_iff {c : Char} :
    isSeparator c = true ↔ ∃ r ∈ separatorRanges, r.1 ≤ c.toNat ∧ c.toNat ≤ r.2 := by
  have hchar : ∀ d : Char, c = d ↔ d.toNat ≤ c.toNat ∧ c.toNat ≤ d.toNat := fun d => by
    rw [← Char.toNat_inj]
    omega
  unfold isSeparator Text.isBlank Text.inRanges separatorRanges
  simp only [Bool.or_eq_true, beq_iff_eq, List.any_eq_true, Bool.and_eq_true, decide_eq_true_eq,
    List.mem_append, or_and_right, exists_or, hchar, or_assoc]
  simp

/-- No run of letters has a counterpart among the separators. -/
theorem counterparts_apart : ∀ r ∈ Text.upperRuns, ∀ s ∈ separatorRanges,
    (r.2.1 : Int) + r.2.2.2 < s.1 ∨ (s.2 : Int) < r.1 + r.2.2.2 := by
  decide +kernel

/-- No character grows into separators. -/
theorem grown_apart : ∀ e ∈ Text.upperGrowing, ∀ n ∈ e.2, isSeparator (Char.ofNat n) = false := by
  decide +kernel

/-- A code is the code of its character, or there is no such character. -/
theorem toNat_ofNat_or (n : Nat) : (Char.ofNat n).toNat = n ∨ (Char.ofNat n).toNat = 0 := by
  unfold Char.ofNat
  by_cases h : n.isValidChar
  · exact .inl (by rw [dif_pos h]; rfl)
  · exact .inr (by rw [dif_neg h]; rfl)

/-- **Upper case brings no separator in.** -/
theorem not_isSeparator_of_mem_upper {c d : Char} (hc : isSeparator c = false)
    (hd : d ∈ Text.upper c) : isSeparator d = false := by
  unfold Text.upper at hd
  split at hd
  · next e he =>
    obtain ⟨n, hn, rfl⟩ := List.mem_map.mp hd
    exact grown_apart e (List.mem_of_find?_eq_some he) n hn
  · split at hd
    · next r hr =>
      rw [List.mem_singleton.mp hd]
      have hholds := List.find?_some hr
      simp only [Text.CaseRun.holds, Bool.and_eq_true, decide_eq_true_eq] at hholds
      by_contra hsep
      obtain ⟨s, hs, hlow, hhigh⟩ := isSeparator_iff.mp (Bool.not_eq_false _ ▸ hsep)
      have hapart := counterparts_apart r (List.mem_of_find?_eq_some hr) s hs
      have hpos : 0 < s.1 := (by decide : ∀ s ∈ separatorRanges, 0 < s.1) s hs
      rcases toNat_ofNat_or ((c.toNat : Int) + r.2.2.2).toNat with hcode | hcode
      · omega
      · omega
    · rw [List.mem_singleton.mp hd]
      exact hc

/-- Words put together hold no separator. -/
theorem not_isSeparator_of_mem_pascalFrom {cs : List Char} {start : Bool} {d : Char}
    (hd : d ∈ pascalFrom start cs) : isSeparator d = false := by
  induction cs generalizing start with
  | nil => cases hd
  | cons c cs ih =>
    cases hsep : isSeparator c with
    | true =>
      rw [pascalFrom_separator hsep] at hd
      exact ih hd
    | false =>
      rw [pascalFrom_word hsep] at hd
      rcases List.mem_append.mp hd with hd | hd
      · cases start with
        | true => exact not_isSeparator_of_mem_upper hsep hd
        | false => exact List.mem_singleton.mp hd ▸ hsep
      · exact ih hd

/-- **A type name holds no separator.** -/
theorem not_isSeparator_of_mem_typeName {name : String} {d : Char}
    (hd : d ∈ (typeName name).toList) : isSeparator d = false := by
  unfold typeName at hd
  rw [toList_pascal] at hd
  exact not_isSeparator_of_mem_pascalFrom hd

end CollectionTypes.Naming
