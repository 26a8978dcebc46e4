import CollectionTypes.Proofs.Text.Endings
import CollectionTypes.Proofs.Text.TypeNames

/-!
# Singulars

Undoing a plural is done at once. The characters of a plural (`IsPlural`) lose the last one
or two, so that what is left is no plural, or the last three for a `y`; all others are kept
(`undoes_singularChars`). So the singular is no plural (`not_isPlural_singularChars`), and
only of plurals the singular differs (`singularChars_eq_self_iff`).

What is undone is told by the end of a name. In front of it a mark makes no difference, if
its last character is in no ending: the singular of a marked name is the marked singular
(`singularChars_append`), unless the rest of the name is nothing but an ending; and what is
marked in the singular is marked (`isPrefix_of_singularChars`).
-/

namespace CollectionTypes.Naming

variable {cs : List Char} {endings others : List String}

/-! ## Endings of one name -/

theorem endsIn_append_of_map {e : String} (he : e ∈ endings) (a : List Char) {b : List Char}
    (hb : b.map Char.toLower = e.toList) : endsIn endings (a ++ b) = true :=
  endsIn_iff.mpr ⟨e, he, a.map Char.toLower, by rw [List.map_append, hb]⟩

/-- A name with an ending has the ending's endings. -/
theorem endsIn_of_endings (h : ∀ e ∈ endings, ∃ f ∈ others, f.toList <:+ e.toList)
    (hcs : endsIn endings cs = true) : endsIn others cs = true := by
  obtain ⟨e, he, hsuffix⟩ := endsIn_iff.mp hcs
  obtain ⟨f, hf, hfe⟩ := h e he
  exact endsIn_iff.mpr ⟨f, hf, hfe.trans hsuffix⟩

/-- A name has no two endings neither of which is an ending of the other. -/
theorem not_endsIn_of_apart
    (h : ∀ e ∈ endings, ∀ f ∈ others, ¬ e.toList <:+ f.toList ∧ ¬ f.toList <:+ e.toList)
    (hcs : endsIn endings cs = true) : endsIn others cs = false := by
  obtain ⟨e, he, hsuffix⟩ := endsIn_iff.mp hcs
  refine Bool.eq_false_iff.mpr fun hother => ?_
  obtain ⟨f, hf, hsuffix'⟩ := endsIn_iff.mp hother
  rcases List.suffix_or_suffix_of_suffix hsuffix hsuffix' with hef | hfe
  · exact (h e he f hf).1 hef
  · exact (h e he f hf).2 hfe

/-! ## Plurals -/

/-- **A plural**: an `s` with something in front of it, which is not one of the endings that
look like a plural and are none. -/
structure IsPlural (cs : List Char) : Prop where
  ends : endsIn ["s"] cs = true
  changes : endsIn unchanging cs = false
  long : 1 < cs.length

/-- A name with an ending that is no plural ending is no plural. -/
theorem not_isPlural_of_endsIn
    (h : ∀ e ∈ endings, ¬ e.toList <:+ "s".toList ∧ ¬ "s".toList <:+ e.toList)
    (hcs : endsIn endings cs = true) : ¬ IsPlural cs := by
  intro hplural
  have hends : endsIn ["s"] cs = false :=
    not_endsIn_of_apart (fun e he f hf => List.mem_singleton.mp hf ▸ h e he) hcs
  exact Bool.false_ne_true (hends.symm.trans hplural.ends)

theorem not_isPlural_of_unchanging (h : endsIn unchanging cs = true) : ¬ IsPlural cs :=
  fun hplural => Bool.false_ne_true (hplural.changes.symm.trans h)

theorem not_isPlural_nil : ¬ IsPlural [] :=
  fun h => absurd h.long (Nat.not_lt_zero 1)

/-- **What undoing a plural makes of characters.** -/
inductive Undoes (cs : List Char) : List Char → Prop
  /-- What is no plural is kept. -/
  | kept (h : ¬ IsPlural cs) : Undoes cs cs
  /-- The last three characters become a `y`. -/
  | ies (h : IsPlural cs) {front ending : List Char} (hcs : cs = front ++ ending)
      (hlength : ending.length = 3) {y : Char} (hy : y = 'y' ∨ y = 'Y') : Undoes cs (front ++ [y])
  /-- The last one or two are left out. -/
  | cut (h : IsPlural cs) {front ending : List Char} (hcs : cs = front ++ ending)
      (hlength : ending.length = 1 ∨ ending.length = 2) (hne : front ≠ [])
      (hfront : ¬ IsPlural front) : Undoes cs front

theorem yFor_eq_or (cs : List Char) : yFor cs = 'y' ∨ yFor cs = 'Y' := by
  unfold yFor
  split
  · exact .inr rfl
  · exact .inl rfl

theorem undoes_ies (h : (endsIn ["ies"] cs && decide (3 < cs.length)) = true) :
    Undoes cs (cs.take (cs.length - 3) ++ [yFor cs]) := by
  obtain ⟨hends, hlong⟩ := Bool.and_eq_true_iff.mp h
  have hlong := of_decide_eq_true hlong
  have hplural : IsPlural cs :=
    ⟨endsIn_of_endings (by decide) hends, not_endsIn_of_apart (by decide) hends, by omega⟩
  refine .ies hplural (List.take_append_drop (cs.length - 3) cs).symm ?_ (yFor_eq_or cs)
  rw [List.length_drop]
  omega

/-- Behind a hissing sound nothing else is left out than `es`. -/
theorem exists_hissing (h : endsIn hissing cs = true) :
    ∃ f ∈ ["ss", "x", "z", "ch", "sh"], ∃ a b ending, cs = (a ++ b) ++ ending
      ∧ b.map Char.toLower = f.toList ∧ ending.length = 2 := by
  obtain ⟨e, he, a, b, rfl, hb⟩ := exists_ending h
  obtain ⟨f, hf, hfe⟩ := (by decide : ∀ e ∈ hissing, ∃ f ∈ ["ss", "x", "z", "ch", "sh"],
    e.toList = f.toList ++ "es".toList) e he
  rw [hfe] at hb
  obtain ⟨b, ending, rfl, hb, hending⟩ := List.map_eq_append_iff.mp hb
  refine ⟨f, hf, a, b, ending, (List.append_assoc _ _ _).symm, hb, ?_⟩
  rw [← List.length_map (f := Char.toLower), hending]
  rfl

theorem undoes_hissing (h : endsIn hissing cs = true) :
    Undoes cs (cs.take (cs.length - 2)) := by
  have hends : endsIn ["s"] cs = true := endsIn_of_endings (by decide) h
  have hchanges : endsIn unchanging cs = false := not_endsIn_of_apart (by decide) h
  obtain ⟨f, hf, a, b, ending, rfl, hb, hlength⟩ := exists_hissing h
  have hne : a ++ b ≠ [] := by
    rintro hnil
    rw [(List.append_eq_nil_iff.mp hnil).2] at hb
    exact (by decide : ∀ f ∈ ["ss", "x", "z", "ch", "sh"], f.toList ≠ []) f hf hb.symm
  have hfront : ¬ IsPlural (a ++ b) := by
    rcases (by decide : ∀ f ∈ ["ss", "x", "z", "ch", "sh"], f ∈ unchanging
      ∨ ¬ f.toList <:+ "s".toList ∧ ¬ "s".toList <:+ f.toList) f hf with hss | hapart
    · exact not_isPlural_of_unchanging (endsIn_append_of_map hss a hb)
    · have hsound : endsIn [f] (a ++ b) = true :=
        endsIn_append_of_map (List.mem_singleton.mpr rfl) a hb
      exact not_isPlural_of_endsIn (List.forall_mem_singleton.mpr hapart) hsound
  have hlong : (a ++ b ++ ending).length = (a ++ b).length + 2 := by
    rw [← hlength, ← List.length_append]
  rw [hlong, Nat.add_sub_cancel, List.take_left]
  exact .cut ⟨hends, hchanges, by omega⟩ rfl (.inr hlength) hne hfront

theorem undoes_plural (hchanges : endsIn unchanging cs = false)
    (h : (endsIn ["s"] cs && decide (1 < cs.length)) = true) :
    Undoes cs (cs.take (cs.length - 1)) := by
  obtain ⟨hends, hlong⟩ := Bool.and_eq_true_iff.mp h
  have hplural : IsPlural cs := ⟨hends, hchanges, of_decide_eq_true hlong⟩
  obtain ⟨a, c, ha, rfl, hc⟩ := exists_plural h
  rw [List.take_left' (by rw [List.length_append, List.length_singleton, Nat.add_sub_cancel])]
  refine .cut hplural rfl (.inl rfl) ha fun hfront => ?_
  -- two of them are no plural ending
  obtain ⟨a, d, -, rfl, hd⟩ := exists_plural
    (Bool.and_eq_true_iff.mpr ⟨hfront.ends, decide_eq_true hfront.long⟩)
  have hmap : [d, c].map Char.toLower = "ss".toList := by
    rw [List.map_cons, List.map_singleton, hd, hc]
    rfl
  have hss : endsIn unchanging (a ++ [d, c]) = true :=
    endsIn_append_of_map (by decide) a hmap
  rw [List.append_assoc] at hchanges
  exact Bool.false_ne_true (hchanges.symm.trans hss)

/-- **How the singular comes about.** -/
theorem undoes_singularChars (cs : List Char) : Undoes cs (singularChars cs) := by
  unfold singularChars
  split
  · next h => exact undoes_ies h
  · split
    · next h => exact undoes_hissing h
    · split
      · next h => exact .kept (not_isPlural_of_unchanging h)
      · next hunchanging =>
        split
        · next h => exact undoes_plural (Bool.eq_false_iff.mpr hunchanging) h
        · next h =>
          exact .kept fun hplural =>
            h (Bool.and_eq_true_iff.mpr ⟨hplural.ends, decide_eq_true hplural.long⟩)

namespace Undoes

variable {ds : List Char}

/-- What comes of a plural is none. -/
theorem not_isPlural (h : Undoes cs ds) : ¬ IsPlural ds := by
  cases h with
  | kept h => exact h
  | @ies _ front _ _ _ y hy =>
    have hends : endsIn ["y"] (front ++ [y]) = true :=
      endsIn_append_of_map (e := "y") (by decide) front (by rcases hy with rfl | rfl <;> rfl)
    exact not_isPlural_of_endsIn (by decide) hends
  | cut _ _ _ _ hfront => exact hfront

theorem eq_iff (h : Undoes cs ds) : ds = cs ↔ ¬ IsPlural cs := by
  cases h with
  | kept h => exact iff_of_true rfl h
  | ies h hcs hlength =>
    refine iff_of_false (fun heq => ?_) (not_not_intro h)
    have hsame := congrArg List.length (heq.trans hcs)
    rw [List.length_append, List.length_append, hlength, List.length_singleton] at hsame
    omega
  | cut h hcs hlength =>
    refine iff_of_false (fun heq => ?_) (not_not_intro h)
    have hsame := congrArg List.length (heq.trans hcs)
    rw [List.length_append] at hsame
    omega

theorem eq_nil_iff (h : Undoes cs ds) : ds = [] ↔ cs = [] := by
  cases h with
  | kept => exact Iff.rfl
  | ies h =>
    refine iff_of_false (by simp) ?_
    rintro rfl
    exact not_isPlural_nil h
  | cut h _ _ hne =>
    refine iff_of_false hne ?_
    rintro rfl
    exact not_isPlural_nil h

/-- **At most three characters** are left out, and at most a `y` is added. -/
theorem exists_parts (h : Undoes cs ds) : ∃ front ending added, cs = front ++ ending
    ∧ ending.length ≤ 3 ∧ ds = front ++ added ∧ (added = [] ∨ added = ['y'] ∨ added = ['Y']) := by
  cases h with
  | kept =>
    exact ⟨cs, [], [], (List.append_nil cs).symm, Nat.zero_le 3, (List.append_nil cs).symm,
      .inl rfl⟩
  | @ies _ front ending hcs hlength y hy =>
    refine ⟨front, ending, [y], hcs, Nat.le_of_eq hlength, rfl, .inr ?_⟩
    exact hy.imp (congrArg ([·])) (congrArg ([·]))
  | @cut _ _ ending hcs hlength =>
    exact ⟨ds, ending, [], hcs, by omega, (List.append_nil ds).symm, .inl rfl⟩

end Undoes

/-- **The singular is no plural.** -/
theorem not_isPlural_singularChars (cs : List Char) : ¬ IsPlural (singularChars cs) :=
  (undoes_singularChars cs).not_isPlural

/-- Only of plurals the singular differs. -/
theorem singularChars_eq_self_iff : singularChars cs = cs ↔ ¬ IsPlural cs :=
  (undoes_singularChars cs).eq_iff

/-! ## Marked names -/

section Marked

variable {front rest : List Char} {c : Char}

/-- What ends in a character that is in no ending makes no difference to endings. -/
theorem endsIn_append (hc : c.toLower ∉ Text.endingLetters)
    (h : ∀ e ∈ endings, Text.IsEnding e.toList) :
    endsIn endings (front ++ c :: rest) = endsIn endings rest := by
  rw [Bool.eq_iff_iff, endsIn_iff, endsIn_iff]
  refine exists_congr fun e => and_congr_right fun he => ?_
  have hnone : c.toLower ∉ e.toList := fun hmem => hc (h e he _ hmem)
  rw [List.map_append, List.map_cons]
  constructor
  · intro hsuffix
    rcases List.suffix_or_suffix_of_suffix hsuffix (List.suffix_append _ _) with hshort | hlong
    · rcases List.suffix_cons_iff.mp hshort with heq | hrest
      · exact absurd (heq ▸ List.mem_cons_self) hnone
      · exact hrest
    · exact absurd (hlong.mem List.mem_cons_self) hnone
  · intro hsuffix
    exact hsuffix.trans ((List.suffix_cons _ _).trans (List.suffix_append _ _))

/-- An ending is all of a name, or there is something in front of it. -/
theorem length_lt_of_endsIn {e : String} (h : endsIn [e] rest = true)
    (hne : rest.map Char.toLower ≠ e.toList) : e.toList.length < rest.length := by
  obtain ⟨f, hf, a, b, rfl, hb⟩ := exists_ending h
  rw [List.mem_singleton.mp hf] at hb
  have hpos : a ≠ [] := by
    rintro rfl
    exact hne hb
  rw [List.length_append, ← hb, List.length_map]
  exact Nat.lt_add_of_pos_left (List.length_pos_iff.mpr hpos)

/-- With something in front, a name that is more than an ending stays so. -/
theorem endsIn_and_long_append {e : String} (hc : c.toLower ∉ Text.endingLetters)
    (he : Text.IsEnding e.toList) (hne : rest.map Char.toLower ≠ e.toList) :
    (endsIn [e] (front ++ c :: rest) && decide (e.toList.length < (front ++ c :: rest).length))
      = (endsIn [e] rest && decide (e.toList.length < rest.length)) := by
  rw [endsIn_append hc (List.forall_mem_singleton.mpr he)]
  cases hends : endsIn [e] rest with
  | false => rfl
  | true =>
    have hlong := length_lt_of_endsIn hends hne
    have hall : e.toList.length < (front ++ c :: rest).length := by
      rw [List.length_append, List.length_cons]
      omega
    rw [decide_eq_true hall, decide_eq_true hlong]

theorem take_append_sub {k : Nat} (hk : k ≤ rest.length) :
    (front ++ rest).take ((front ++ rest).length - k) = front ++ rest.take (rest.length - k) := by
  rw [List.length_append, Nat.add_sub_assoc hk, List.take_length_add_append]

theorem yFor_append (hlong : 3 ≤ rest.length) : yFor (front ++ rest) = yFor rest := by
  have hsame : (front ++ rest)[(front ++ rest).length - 3]? = rest[rest.length - 3]? := by
    rw [List.length_append, Nat.add_sub_assoc hlong,
      List.getElem?_append_right (Nat.le_add_right _ _), Nat.add_sub_cancel_left]
  unfold yFor
  rw [hsame]

/-- **The singular of a marked name** is the marked singular, unless the rest of the name is
the ending of a plural and nothing else. -/
theorem singularChars_append (hc : c.toLower ∉ Text.endingLetters)
    (hs : rest.map Char.toLower ≠ "s".toList) (hies : rest.map Char.toLower ≠ "ies".toList) :
    singularChars (front ++ c :: rest) = front ++ c :: singularChars rest := by
  have hthree : (endsIn ["ies"] (front ++ c :: rest) && decide (3 < (front ++ c :: rest).length))
      = (endsIn ["ies"] rest && decide (3 < rest.length)) :=
    endsIn_and_long_append hc (by decide) hies
  have hone : (endsIn ["s"] (front ++ c :: rest) && decide (1 < (front ++ c :: rest).length))
      = (endsIn ["s"] rest && decide (1 < rest.length)) :=
    endsIn_and_long_append hc (by decide) hs
  unfold singularChars
  rw [hthree, hone, endsIn_append hc (by decide), endsIn_append hc (by decide),
    List.append_cons front c rest]
  split
  · next h =>
    have hlong : 3 ≤ rest.length := Nat.le_of_lt (of_decide_eq_true (Bool.and_eq_true_iff.mp h).2)
    rw [take_append_sub hlong, yFor_append hlong, List.append_assoc, ← List.append_cons]
  · split
    · next h =>
      obtain ⟨_, _, _, _, _, rfl, _, hlength⟩ := exists_hissing h
      rw [take_append_sub (by rw [List.length_append, hlength]; omega), ← List.append_cons]
    · split
      · exact (List.append_cons front c rest).symm
      · split
        · next h =>
          have hlong : 1 ≤ rest.length :=
            Nat.le_of_lt (of_decide_eq_true (Bool.and_eq_true_iff.mp h).2)
          rw [take_append_sub hlong, ← List.append_cons]
        · exact (List.append_cons front c rest).symm

/-- **What is marked in the singular is marked**, since no mark ends in the `y` that may have
been added. -/
theorem isPrefix_of_singularChars (hc : c ≠ 'y' ∧ c ≠ 'Y')
    (h : front ++ [c] <+: singularChars cs) : front ++ [c] <+: cs := by
  obtain ⟨kept, ending, added, hcs, -, hsingular, hadded⟩ :=
    (undoes_singularChars cs).exists_parts
  have hkept : front ++ [c] <+: kept := by
    rw [hsingular] at h
    have hy : ∀ y, front ++ [c] <+: kept ++ [y] → c ≠ y → front ++ [c] <+: kept := by
      intro y hprefix hne
      rcases List.prefix_concat_iff.mp hprefix with heq | hprefix
      · exact absurd (List.append_inj_right' heq rfl) (fun heq => hne (List.cons.inj heq).1)
      · exact hprefix
    rcases hadded with rfl | rfl | rfl
    · rwa [List.append_nil] at h
    · exact hy 'y' h hc.1
    · exact hy 'Y' h hc.2
  exact hcs ▸ hkept.trans (List.prefix_append kept ending)

end Marked

end CollectionTypes.Naming
