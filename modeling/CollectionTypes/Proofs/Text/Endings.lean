import CollectionTypes.Proofs.Text.Words
import CollectionTypes.Text.Lower
import Mathlib.Data.List.Forall2

/-!
# Endings in lower case

Capitals and small letters count alike in the ending of a name: it is looked for in the
name's lower-case form. A lower-case form can be longer than the name, and its sigmas depend
on where words end. But the letters of the endings are small forms of ASCII letters only, or
stand inside of what a character becomes and not at its end (`lowers_lower`). So an ending can
as well be looked for character by character, by the small forms of ASCII
(`isSuffix_lowerAll_iff`), which is what `Naming.endsIn` does (`Naming.endsIn_iff`).
-/

namespace CollectionTypes

namespace Text

/-- **The letters of endings.** -/
def endingLetters : List Char := "cehisuxz".toList

/-- **An ending**: letters of endings only. -/
def IsEnding (e : List Char) : Prop :=
  ∀ d ∈ e, d ∈ endingLetters

-- written out, since another instance would go through all characters
instance : DecidablePred IsEnding :=
  List.decidableBAll (· ∈ endingLetters)

/-- **What a character becomes in lower case**, as far as endings can tell: its small form, or
something that ends in no letter of an ending, and then its small form is none either. -/
inductive Lowers (c : Char) : List Char → Prop
  | small : Lowers c [c.toLower]
  | strange (front : List Char) {last : Char} (hlast : last ∉ endingLetters)
      (hsmall : c.toLower ∉ endingLetters) : Lowers c (front ++ [last])

theorem lower_of_ascii {c : Char} (h : c.toNat < 128) : lower c = [c.toLower] := by
  by_cases hcapital : 65 ≤ c.toNat ∧ c.toNat ≤ 90
  · have hall : ∀ n ≤ 90, 65 ≤ n → lower (Char.ofNat n) = [(Char.ofNat n).toLower] := by
      decide +kernel
    have hc := hall c.toNat hcapital.2 hcapital.1
    rwa [Char.ofNat_toNat] at hc
  · have hruns : ∀ r ∈ lowerRuns, 128 ≤ r.1 ∨ r.1 = 65 ∧ r.2.1 = 90 := by decide +kernel
    have hnone : lowerRuns.find? (fun r =>
        (CaseRun.mk r.1 r.2.1 r.2.2.1 r.2.2.2).holds c.toNat) = none := by
      refine List.find?_eq_none.mpr fun r hr hholds => ?_
      simp only [CaseRun.holds, Bool.and_eq_true, decide_eq_true_eq] at hholds
      rcases hruns r hr with hrun | hrun <;> omega
    have hsmall : c.toLower = c := by
      unfold Char.toLower
      exact dif_neg hcapital
    rw [lower, if_neg (by omega), hnone, hsmall]

theorem endingLetters_ascii {d : Char} (h : d ∈ endingLetters) :
    0 < d.toNat ∧ d.toNat < 128 :=
  (by decide : ∀ n ∈ endingLetters.map Char.toNat, 0 < n ∧ n < 128) _
    (List.mem_map_of_mem h)

theorem toLower_of_not_ascii {c : Char} (h : 128 ≤ c.toNat) : c.toLower = c := by
  unfold Char.toLower
  rw [dif_neg]
  rintro ⟨-, hz⟩
  have hcode : c.toNat ≤ 90 := hz
  omega

/-- No run of other characters leads to a letter of an ending. -/
theorem counterparts_apart_endingLetters : ∀ r ∈ lowerRuns, r.2.1 < 128
    ∨ ∀ n ∈ endingLetters.map Char.toNat,
        (r.2.1 : Int) + r.2.2.2 < n ∨ (n : Int) < r.1 + r.2.2.2 := by
  decide +kernel

/-- **What a character becomes** by itself. -/
theorem lowers_lower (c : Char) : Lowers c (lower c) := by
  by_cases hascii : c.toNat < 128
  · rw [lower_of_ascii hascii]
    exact .small
  have hother : 128 ≤ c.toNat := Nat.le_of_not_lt hascii
  have hsmall : c.toLower ∉ endingLetters := by
    rw [toLower_of_not_ascii hother]
    exact fun hmem => hascii (endingLetters_ascii hmem).2
  unfold lower
  split
  · exact .strange ['i'] (by decide +kernel) hsmall
  · split
    · next r hr =>
      refine .strange [] (fun hmem => ?_) hsmall
      have hholds := List.find?_some hr
      simp only [CaseRun.holds, Bool.and_eq_true, decide_eq_true_eq] at hholds
      rcases counterparts_apart_endingLetters r (List.mem_of_find?_eq_some hr) with hrun | hrun
      · omega
      · have hapart := hrun _ (List.mem_map_of_mem hmem)
        have hpos := (endingLetters_ascii hmem).1
        rcases Naming.toNat_ofNat_or ((c.toNat : Int) + r.2.2.2).toNat with hcode | hcode
        · omega
        · omega
    · have hsame : [c] = [c.toLower] := by rw [toLower_of_not_ascii hother]
      exact hsame ▸ .small

/-- **The lower-case form of a text**, character by character. -/
theorem exists_lowers (before cs : List Char) :
    ∃ ps, lowerBehind before cs = ps.flatten ∧ List.Forall₂ Lowers cs ps := by
  induction cs generalizing before with
  | nil => exact ⟨[], rfl, .nil⟩
  | cons c cs ih =>
    obtain ⟨ps, hps, hlowers⟩ := ih (c :: before)
    refine ⟨_ :: ps, by rw [lowerBehind, hps]; rfl, .cons ?_ hlowers⟩
    split
    · next hc =>
      -- no sigma is a letter of an ending
      subst hc
      refine .strange [] ?_ (by decide +kernel)
      split <;> decide +kernel
    · exact lowers_lower c

/-! ## Endings -/

section Endings

variable {cs e : List Char} {ps : List (List Char)}

/-- What stands at the end, read backwards. -/
theorem isPrefix_reversed_iff (h : List.Forall₂ Lowers cs ps) (he : IsEnding e) :
    e <+: (ps.map List.reverse).flatten ↔ e <+: cs.map Char.toLower := by
  induction h generalizing e with
  | nil => exact Iff.rfl
  | @cons c p cs ps hcp _ ih =>
    cases e with
    | nil => exact iff_of_true List.nil_prefix List.nil_prefix
    | cons d e =>
      obtain ⟨hd, he⟩ := List.forall_mem_cons.mp he
      cases hcp with
      | small =>
        rw [List.map_cons, List.reverse_singleton, List.flatten_cons, List.singleton_append,
          List.map_cons, List.cons_prefix_cons, List.cons_prefix_cons, ih he]
      | @strange front last hlast hsmall =>
        rw [List.map_cons, List.reverse_concat, List.flatten_cons, List.cons_append, List.map_cons,
          List.cons_prefix_cons, List.cons_prefix_cons]
        exact iff_of_false (fun h => hlast (h.1 ▸ hd)) fun h => hsmall (h.1 ▸ hd)

/-- **An ending of the lower-case form** is one of the small forms of the characters. -/
theorem isSuffix_lowerAll_iff (he : IsEnding e) :
    e <:+ lowerAll cs ↔ e <:+ cs.map Char.toLower := by
  obtain ⟨ps, hps, hlowers⟩ := exists_lowers [] cs
  have hbackwards := isPrefix_reversed_iff (e := e.reverse) (List.forall₂_reverse_iff.mpr hlowers)
    fun d hd => he d (List.mem_reverse.mp hd)
  rw [lowerAll, hps, ← List.reverse_prefix, ← List.reverse_prefix, List.reverse_flatten,
    ← List.map_reverse, ← List.map_reverse]
  exact hbackwards

theorem length_le_lowerAll (cs : List Char) : cs.length ≤ (lowerAll cs).length := by
  obtain ⟨ps, hps, hlowers⟩ := exists_lowers [] cs
  rw [lowerAll, hps]
  clear hps
  induction hlowers with
  | nil => exact Nat.le_refl _
  | cons hcp _ ih =>
    rw [List.length_cons, List.flatten_cons, List.length_append, Nat.add_comm]
    refine Nat.add_le_add ?_ ih
    cases hcp with
    | small => exact Nat.le_refl _
    | strange front => exact List.length_append ▸ Nat.le_add_left _ _

theorem lowerAll_of_ascii (h : ∀ c ∈ cs, c.toNat < 128) : lowerAll cs = cs.map Char.toLower := by
  suffices ∀ before, lowerBehind before cs = cs.map Char.toLower from this []
  induction cs with
  | nil => exact fun _ => rfl
  | cons c cs ih =>
    intro before
    obtain ⟨hc, hcs⟩ := List.forall_mem_cons.mp h
    have hsigma : c ≠ 'Σ' := by
      rintro rfl
      exact absurd hc (by decide)
    rw [lowerBehind, ih hcs, if_neg hsigma, lower_of_ascii hc]
    rfl

/-- The lower-case form is an ending exactly if the small forms of the characters are. -/
theorem lowerAll_eq_iff (he : IsEnding e) :
    lowerAll cs = e ↔ cs.map Char.toLower = e := by
  constructor
  · rintro rfl
    have hsuffix := (isSuffix_lowerAll_iff he).mp List.suffix_rfl
    refine (hsuffix.eq_of_length_le ?_).symm
    rw [List.length_map]
    exact length_le_lowerAll cs
  · rintro rfl
    refine lowerAll_of_ascii fun c hc => Nat.lt_of_not_le fun hother => ?_
    have hmem := he c.toLower (List.mem_map_of_mem hc)
    rw [toLower_of_not_ascii hother] at hmem
    exact absurd (endingLetters_ascii hmem).2 (Nat.not_lt.mpr hother)

end Endings

end Text

namespace Naming

/-- **A name with one of some endings** in its lower-case form. -/
def HasEnding (endings : List String) (name : String) : Prop :=
  ∃ e ∈ endings, e.toList <:+ (Text.lowercase name).toList

theorem endsIn_iff {endings : List String} {cs : List Char} :
    endsIn endings cs = true ↔ ∃ e ∈ endings, e.toList <:+ cs.map Char.toLower := by
  unfold endsIn
  simp only [List.any_eq_true, List.isSuffixOf_iff_suffix]

/-- **Endings are told in the lower-case form.** -/
theorem endsIn_toList_iff {endings : List String}
    (h : ∀ e ∈ endings, Text.IsEnding e.toList) {name : String} :
    endsIn endings name.toList = true ↔ HasEnding endings name := by
  unfold HasEnding Text.lowercase
  rw [endsIn_iff, String.toList_ofList]
  exact exists_congr fun e => and_congr_right fun he => (Text.isSuffix_lowerAll_iff (h e he)).symm

end Naming

end CollectionTypes
