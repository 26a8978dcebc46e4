import CollectionTypes.Naming.Member
import CollectionTypes.Naming.TypeName
import CollectionTypes.Proofs.Entries
import Mathlib.Data.List.Basic

/-!
# Type names that are identifiers

The type name of a name made of ASCII letters, digits, underscores and hyphens is
made of letters and digits alone. What it begins with is the first letter or digit
of the singular, in upper case; so it is an identifier exactly if that is a letter.

Undoing a plural leaves the first letter or digit of a name as it is, or puts one
letter for another. There is one exception: a name with nothing but separators in
front of the `s` of its plural has no letter or digit left (`IsBareEnding`). Other
than these, the names that have an identifier for their type name are those whose
first letter or digit is a letter (`isIdentifier_typeName`).
-/

namespace CollectionTypes.Naming

/-! ## Characters of plain names -/

/-- Whether a character can stand in a plain name: an ASCII letter or digit, an
underscore, or a hyphen. -/
def inPlainName (c : Char) : Bool :=
  c.isAlphanum || c == '_' || c == '-'

/-- **A plain name.** -/
def IsPlain (cs : List Char) : Prop :=
  ∀ c ∈ cs, inPlainName c = true

instance : DecidablePred IsPlain := fun cs => List.decidableBAll _ cs

theorem toNat_lt_of_inPlainName {c : Char} (h : inPlainName c = true) : c.toNat < 128 := by
  unfold inPlainName at h
  simp only [Bool.or_eq_true, beq_iff_eq] at h
  rcases h with (h | rfl) | rfl
  · unfold Char.isAlphanum Char.isAlpha Char.isUpper Char.isLower Char.isDigit at h
    simp only [Bool.or_eq_true, Bool.and_eq_true, decide_eq_true_eq] at h
    change ((65 ≤ c.toNat ∧ c.toNat ≤ 90) ∨ (97 ≤ c.toNat ∧ c.toNat ≤ 122))
      ∨ (48 ≤ c.toNat ∧ c.toNat ≤ 57) at h
    omega
  · decide
  · decide

/-- What holds of the first characters holds of those of plain names. -/
theorem forall_inPlainName {P : Char → Prop}
    (h : ∀ n < 128, inPlainName (Char.ofNat n) = true → P (Char.ofNat n)) {c : Char}
    (hc : inPlainName c = true) : P c := by
  have hchar := h c.toNat (toNat_lt_of_inPlainName hc)
  rw [Char.ofNat_toNat] at hchar
  exact hchar hc

theorem inPlainName_of_isAlphanum {c : Char} (h : c.isAlphanum = true) : inPlainName c = true := by
  rw [inPlainName, h]
  rfl

/-- What is no separator is a letter or a digit. -/
theorem isAlphanum_eq_not_isSeparator {c : Char} (h : inPlainName c = true) :
    c.isAlphanum = !isSeparator c :=
  forall_inPlainName (P := fun c => c.isAlphanum = !isSeparator c) (by decide +kernel) h

theorem upper_eq {c : Char} (h : inPlainName c = true) : Text.upper c = [c.toUpper] :=
  forall_inPlainName (P := fun c => Text.upper c = [c.toUpper]) (by decide +kernel) h

theorem isAlphanum_toUpper {c : Char} (h : inPlainName c = true) :
    c.toUpper.isAlphanum = c.isAlphanum :=
  forall_inPlainName (P := fun c => c.toUpper.isAlphanum = c.isAlphanum) (by decide +kernel) h

theorem isAlpha_toUpper {c : Char} (h : inPlainName c = true) : c.toUpper.isAlpha = c.isAlpha :=
  forall_inPlainName (P := fun c => c.toUpper.isAlpha = c.isAlpha) (by decide +kernel) h

/-- A letter is no separator. -/
theorem not_isSeparator_of_isAlpha {c : Char} (h : c.isAlpha = true) : (!isSeparator c) = true := by
  have halphanum : c.isAlphanum = true := by
    rw [Char.isAlphanum, h]
    rfl
  rw [← isAlphanum_eq_not_isSeparator (inPlainName_of_isAlphanum halphanum), halphanum]

/-- Only a letter has a letter for its small form. -/
theorem isAlpha_of_toLower {c : Char} (h : c.toLower.isAlpha = true) : c.isAlpha = true := by
  unfold Char.toLower at h
  split at h
  · next hupper =>
    exact Bool.or_eq_true_iff.mpr (.inl (decide_eq_true hupper))
  · exact h

/-! ## The beginning of a type name -/

/-- Whether the first letter or digit of a name is a letter. -/
def firstIsLetter (cs : List Char) : Bool :=
  (cs.find? fun c => !isSeparator c).any Char.isAlpha

theorem isAlphanum_of_mem_pascalFrom {cs : List Char} (h : IsPlain cs) (start : Bool) :
    ∀ d ∈ pascalFrom start cs, d.isAlphanum = true := by
  induction cs generalizing start with
  | nil => exact fun d hd => absurd hd List.not_mem_nil
  | cons c cs ih =>
    obtain ⟨hc, hcs⟩ := List.forall_mem_cons.mp h
    cases hsep : isSeparator c with
    | true =>
      rw [pascalFrom_separator hsep]
      exact ih hcs true
    | false =>
      have halphanum : c.isAlphanum = true := by
        rw [isAlphanum_eq_not_isSeparator hc, hsep]
        rfl
      rw [pascalFrom_word hsep, upper_eq hc]
      intro d hd
      rcases List.mem_append.mp hd with hd | hd
      · cases start with
        | true =>
          rw [List.mem_singleton.mp hd, isAlphanum_toUpper hc]
          exact halphanum
        | false => exact List.mem_singleton.mp hd ▸ halphanum
      · exact ih hcs false d hd

/-- Words put together begin with the first letter or digit, in upper case. -/
theorem head?_pascalFrom {cs : List Char} (h : IsPlain cs) :
    (pascalFrom true cs).head? = (cs.find? fun c => !isSeparator c).map Char.toUpper := by
  induction cs with
  | nil => rfl
  | cons c cs ih =>
    obtain ⟨hc, hcs⟩ := List.forall_mem_cons.mp h
    cases hsep : isSeparator c with
    | true =>
      rw [pascalFrom_separator hsep, List.find?_cons_of_neg (by rw [hsep]; decide)]
      exact ih hcs
    | false =>
      rw [pascalFrom_word hsep, List.find?_cons_of_pos (by rw [hsep]; rfl), upper_eq hc]
      rfl

/-- Letters and digits are an identifier if a letter is in front. -/
theorem isIdentifier_of_alphanum {cs : List Char} (h : ∀ c ∈ cs, c.isAlphanum = true) :
    isIdentifier cs = cs.head?.any Char.isAlpha := by
  cases cs with
  | nil => rfl
  | cons c cs =>
    obtain ⟨hc, hcs⟩ := List.forall_mem_cons.mp h
    have hbegins : beginsIdentifier c = c.isAlpha := by
      have hunderscore : c ≠ '_' := by
        rintro rfl
        exact absurd hc (by decide)
      have hdollar : c ≠ '$' := by
        rintro rfl
        exact absurd hc (by decide)
      rw [beginsIdentifier, beq_false_of_ne hunderscore, beq_false_of_ne hdollar, Bool.or_false,
        Bool.or_false]
    have hcontinues : cs.all continuesIdentifier = true := by
      rw [List.all_eq_true]
      intro d hd
      rw [continuesIdentifier, hcs d hd]
      rfl
    rw [isIdentifier, hbegins, hcontinues, Bool.and_true]
    rfl

/-- **Words put together are an identifier** if the first letter or digit is a letter. -/
theorem isIdentifier_pascalFrom {cs : List Char} (h : IsPlain cs) :
    isIdentifier (pascalFrom true cs) = firstIsLetter cs := by
  rw [isIdentifier_of_alphanum (isAlphanum_of_mem_pascalFrom h true), head?_pascalFrom h,
    firstIsLetter]
  cases hfirst : cs.find? fun c => !isSeparator c with
  | none => rfl
  | some c => exact isAlpha_toUpper (h c (List.mem_of_find?_eq_some hfirst))

/-! ## The first letter of the singular -/

/-- **Nothing but separators in front of a plural ending.** -/
def IsBareEnding (cs : List Char) : Prop :=
  ∃ seps c, seps ≠ [] ∧ (∀ d ∈ seps, isSeparator d = true) ∧ cs = seps ++ [c] ∧ c.toLower = 's'

/-- **A letter in front of the end** of some characters stays where it is, or has another
one put for it; what is in front of it stays. -/
def KeepsLetter (cs ds : List Char) : Prop :=
  ∃ a d b e b', cs = a ++ d :: b ∧ b ≠ [] ∧ d.isAlpha = true ∧ ds = a ++ e :: b'
    ∧ e.isAlpha = true

/-- A letter decides only if there is no letter or digit in front of it. -/
theorem firstIsLetter_append_cons (a : List Char) {d : Char} (hd : d.isAlpha = true)
    (b : List Char) :
    firstIsLetter (a ++ d :: b)
      = (a.find? fun c => !isSeparator c).elim true Char.isAlpha := by
  have hfound : (d :: b).find? (fun c => !isSeparator c) = some d :=
    List.find?_cons_of_pos (not_isSeparator_of_isAlpha hd)
  unfold firstIsLetter
  rw [List.find?_append, hfound]
  cases a.find? fun c => !isSeparator c with
  | none => exact hd
  | some c => rfl

/-- A letter in front of the last character is no separator. -/
theorem not_isBareEnding {a b : List Char} {d : Char} (hd : d.isAlpha = true) (hb : b ≠ []) :
    ¬ IsBareEnding (a ++ d :: b) := by
  rintro ⟨seps, c, -, hseps, hcs, -⟩
  have hmem : d ∈ seps := by
    have hdrop := congrArg List.dropLast hcs
    rw [List.dropLast_concat, List.dropLast_append_of_ne_nil (List.cons_ne_nil d b),
      List.dropLast_cons_of_ne_nil hb] at hdrop
    exact hdrop ▸ List.mem_append_right _ List.mem_cons_self
  have hletter := not_isSeparator_of_isAlpha hd
  rw [hseps d hmem] at hletter
  cases hletter

/-- Where a letter is kept, the first letter or digit is a letter before and after, or
neither. -/
theorem KeepsLetter.firstIsLetter_iff {cs ds : List Char} (h : KeepsLetter cs ds) :
    firstIsLetter ds = true ↔ firstIsLetter cs = true ∧ ¬ IsBareEnding cs := by
  obtain ⟨a, d, b, e, b', rfl, hb, hd, rfl, he⟩ := h
  rw [firstIsLetter_append_cons a he, firstIsLetter_append_cons a hd]
  exact (and_iff_left (not_isBareEnding hd hb)).symm

/-- Where an `s` is left out, what is in front of it has to have a letter or digit. -/
theorem firstIsLetter_iff_of_plural {a : List Char} {c : Char} (ha : a ≠ [])
    (hc : c.toLower = 's') :
    firstIsLetter a = true ↔ firstIsLetter (a ++ [c]) = true ∧ ¬ IsBareEnding (a ++ [c]) := by
  have hletter : c.isAlpha = true := isAlpha_of_toLower (hc ▸ by decide)
  rw [firstIsLetter_append_cons a hletter]
  unfold firstIsLetter
  cases hfirst : a.find? fun c => !isSeparator c with
  | none =>
    have hseps : ∀ d ∈ a, isSeparator d = true := by simpa using hfirst
    exact ⟨fun h => absurd h (by decide), fun h => absurd ⟨a, c, ha, hseps, rfl, hc⟩ h.2⟩
  | some d =>
    refine (and_iff_left ?_).symm
    rintro ⟨seps, c', -, hseps, hcs, -⟩
    have hword := List.find?_some hfirst
    have hmem : d ∈ seps := (List.append_inj_left' hcs rfl) ▸ List.mem_of_find?_eq_some hfirst
    rw [hseps d hmem] at hword
    cases hword

/-! ## Endings -/

/-- A name that ends as it were in small letters. -/
theorem exists_ending {endings : List String} {cs : List Char} (h : endsIn endings cs = true) :
    ∃ e ∈ endings, ∃ a b, cs = a ++ b ∧ b.map Char.toLower = e.toList := by
  obtain ⟨e, he, hsuffix⟩ := List.any_eq_true.mp h
  obtain ⟨front, hfront⟩ := List.isSuffixOf_iff_suffix.mp hsuffix
  obtain ⟨a, b, rfl, -, hb⟩ := List.map_eq_append_iff.mp hfront.symm
  exact ⟨e, he, a, b, rfl, hb⟩

/-- A name that ends in one of some endings, each of which begins with a letter. -/
theorem exists_letter_ending {endings : List String} {cs : List Char}
    (h : endsIn endings cs = true)
    (hletter : ∀ e ∈ endings, e.toList.head?.any Char.isAlpha = true) :
    ∃ e ∈ endings, ∃ a d b, cs = a ++ d :: b ∧ d.isAlpha = true
      ∧ b.length + 1 = e.toList.length := by
  obtain ⟨e, he, a, b, rfl, hb⟩ := exists_ending h
  have hhead := hletter e he
  rw [← hb] at hhead
  cases b with
  | nil => cases hhead
  | cons d b =>
    refine ⟨e, he, a, d, b, rfl, isAlpha_of_toLower hhead, ?_⟩
    rw [← hb, List.length_map, List.length_cons]

theorem keepsLetter_ies {cs : List Char} (h : endsIn ["ies"] cs = true) :
    KeepsLetter cs (cs.take (cs.length - 3) ++ [yFor cs]) := by
  obtain ⟨e, he, a, d, b, rfl, hd, hlength⟩ := exists_letter_ending h (by decide)
  have hthree : e.toList.length = 3 := by rw [List.mem_singleton.mp he]; rfl
  have hy : (yFor (a ++ d :: b)).isAlpha = true := by
    unfold yFor
    split <;> decide
  refine ⟨a, d, b, _, [], rfl, List.ne_nil_of_length_pos (by omega), hd, ?_, hy⟩
  rw [List.take_left' (by rw [List.length_append, List.length_cons]; omega)]

theorem keepsLetter_hissing {cs : List Char} (h : endsIn hissing cs = true) :
    KeepsLetter cs (cs.take (cs.length - 2)) := by
  obtain ⟨e, he, a, d, b, rfl, hd, hlength⟩ := exists_letter_ending h (by decide)
  have hlong : 2 < e.toList.length := (by decide : ∀ e ∈ hissing, 2 < e.toList.length) e he
  have htake : (a ++ d :: b).length - 2 = a.length + (b.length - 2 + 1) := by
    rw [List.length_append, List.length_cons]
    omega
  refine ⟨a, d, b, d, b.take (b.length - 2), rfl, List.ne_nil_of_length_pos (by omega), hd, ?_, hd⟩
  rw [htake, List.take_length_add_append, List.take_succ_cons]

theorem keepsLetter_unchanging {cs : List Char} (h : endsIn unchanging cs = true) :
    KeepsLetter cs cs := by
  obtain ⟨e, he, a, d, b, rfl, hd, hlength⟩ := exists_letter_ending h (by decide)
  have hlong : 1 < e.toList.length := (by decide : ∀ e ∈ unchanging, 1 < e.toList.length) e he
  exact ⟨a, d, b, d, b, rfl, List.ne_nil_of_length_pos (by omega), hd, rfl, hd⟩

/-- The `s` of a plural with something in front of it. -/
theorem exists_plural {cs : List Char} (h : (endsIn ["s"] cs && decide (1 < cs.length)) = true) :
    ∃ a c, a ≠ [] ∧ cs = a ++ [c] ∧ c.toLower = 's' := by
  obtain ⟨hends, hlong⟩ := Bool.and_eq_true_iff.mp h
  obtain ⟨e, he, a, b, rfl, hb⟩ := exists_ending hends
  rw [List.mem_singleton.mp he] at hb
  obtain ⟨c, rfl, hc⟩ := List.map_eq_singleton_iff.mp hb
  have hlong := of_decide_eq_true hlong
  rw [List.length_append, List.length_singleton] at hlong
  exact ⟨a, c, List.ne_nil_of_length_pos (by omega), rfl, hc⟩

/-- A bare ending is that of a plural. -/
theorem IsBareEnding.endsIn {cs : List Char} (h : IsBareEnding cs) :
    (endsIn ["s"] cs && decide (1 < cs.length)) = true := by
  obtain ⟨seps, c, hseps, -, rfl, hc⟩ := h
  have hmap : (seps ++ [c]).map Char.toLower = seps.map Char.toLower ++ "s".toList := by
    rw [List.map_append, List.map_singleton, hc]
    rfl
  have hlong : 1 < (seps ++ [c]).length := by
    have hpos := List.length_pos_iff.mpr hseps
    rw [List.length_append, List.length_singleton]
    omega
  refine Bool.and_eq_true_iff.mpr ⟨List.any_eq_true.mpr ⟨"s", List.mem_singleton.mpr rfl, ?_⟩,
    decide_eq_true hlong⟩
  exact List.isSuffixOf_iff_suffix.mpr ⟨_, hmap.symm⟩

/-- **The first letter or digit of the singular** is a letter if that of the name is, and
anything is left. -/
theorem firstIsLetter_singularChars (cs : List Char) :
    firstIsLetter (singularChars cs) = true ↔ firstIsLetter cs = true ∧ ¬ IsBareEnding cs := by
  unfold singularChars
  split
  · next h => exact (keepsLetter_ies (Bool.and_eq_true_iff.mp h).1).firstIsLetter_iff
  · split
    · next h => exact (keepsLetter_hissing h).firstIsLetter_iff
    · split
      · next h => exact (keepsLetter_unchanging h).firstIsLetter_iff
      · split
        · next h =>
          obtain ⟨a, c, ha, rfl, hc⟩ := exists_plural h
          rw [List.take_left' (by rw [List.length_append, List.length_singleton]; omega)]
          exact firstIsLetter_iff_of_plural ha hc
        · next h => exact (and_iff_left fun hbare => h hbare.endsIn).symm

/-- The singular of a plain name is plain. -/
theorem isPlain_singularChars {cs : List Char} (h : IsPlain cs) : IsPlain (singularChars cs) := by
  have htake : ∀ n, IsPlain (cs.take n) := fun n c hc => h c (List.mem_of_mem_take hc)
  unfold singularChars
  split
  · refine List.forall_mem_append.mpr ⟨htake _, List.forall_mem_singleton.mpr ?_⟩
    unfold yFor
    split <;> decide
  · split
    · exact htake _
    · split
      · exact h
      · split
        · exact htake _
        · exact h

/-- **The type name of a plain name is an identifier** exactly if its first letter or digit
is a letter, and not all that is there is the ending of a plural. -/
theorem isIdentifier_typeName {name : String} (h : IsPlain name.toList) :
    isIdentifier (typeName name).toList = true
      ↔ firstIsLetter name.toList = true ∧ ¬ IsBareEnding name.toList := by
  rw [typeName, toList_pascal, toList_singular, isIdentifier_pascalFrom (isPlain_singularChars h)]
  exact firstIsLetter_singularChars name.toList

end CollectionTypes.Naming
