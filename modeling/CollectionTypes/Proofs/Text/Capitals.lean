import CollectionTypes.Proofs.Text.Words

/-!
# Words that begin with capitals

A type name is the words of a name, each with its first character in upper case
(`pascalFrom_eq_words`). What a text in upper case begins with is a capital: upper case does
not change it again (`Text.upper_of_head?_upper`). This can be seen in the tables. The
characters that change and those that they turn into are two rows of runs, and a run of the
one has nothing in common with a run of the other: it ends before the other begins, or
the members of the one are even and those of the other odd.

A separator makes its two sides independent, and where words have been put together there is
nothing left to do (`pascalFrom_of_isJoined`). These are the laws of putting words together
(`words_are_put_together`).
-/

namespace CollectionTypes

namespace Text

/-! ## Runs of characters that change -/

/-- The characters that upper case changes, in runs. -/
def changing : List CaseRun :=
  upperRuns.map (fun r => ⟨r.1, r.2.1, r.2.2.1, r.2.2.2⟩)
    ++ upperGrowing.map fun e => ⟨e.1, e.1, 1, 0⟩

/-- The first characters of what they turn into, in runs. -/
def capitals : List CaseRun :=
  upperRuns.map (fun r => ⟨(r.1 + r.2.2.2).toNat, (r.2.1 + r.2.2.2).toNat, r.2.2.1, 0⟩)
    ++ upperGrowing.filterMap fun e => e.2.head?.map fun n => ⟨n, n, 1, 0⟩

namespace CaseRun

variable {r q : CaseRun} {n : Nat}

/-- Whether two runs have no member in common, as their ends or their steps show. -/
def avoids (r q : CaseRun) : Bool :=
  !(Nat.ble q.first r.last && Nat.ble r.first q.last)
    || (q.step == 2 && (r.step == 2 || r.first == r.last) && (r.first + q.first) % 2 == 1)

theorem holds_iff :
    r.holds n = true ↔ r.first ≤ n ∧ n ≤ r.last ∧ (n - r.first) % r.step = 0 := by
  simp [holds, and_assoc]

theorem holds_of_eq (h : n = r.first) (hlast : r.first ≤ r.last) : r.holds n = true := by
  rw [holds_iff, h, Nat.sub_self]
  exact ⟨Nat.le_refl _, hlast, Nat.zero_mod _⟩

theorem not_holds_of_avoids (h : r.avoids q = true) (hr : r.holds n = true) :
    ¬ q.holds n = true := by
  unfold avoids at h
  simp only [Bool.or_eq_true, Bool.not_eq_true', ← Bool.not_eq_true, Nat.ble_eq,
    Bool.and_eq_true, beq_iff_eq] at h
  rw [holds_iff] at hr ⊢
  rintro ⟨hlow, hhigh, hq⟩
  rcases h with hends | ⟨⟨hstep, hr' | hr'⟩, hparity⟩
  · omega
  · rw [hstep] at hq
    rw [hr'] at hr
    omega
  · rw [hstep] at hq
    omega

end CaseRun

/-- **No capital changes.** -/
theorem capitals_avoid : (capitals.all fun r => changing.all r.avoids) = true := by
  decide +kernel

/-- What is in no run stays. -/
theorem upper_eq_self {c : Char} (h : ∀ q ∈ changing, ¬ q.holds c.toNat = true) :
    upper c = [c] := by
  have hgrowing : upperGrowing.find? (fun e => e.1 == c.toNat) = none := by
    refine List.find?_eq_none.mpr fun e he heq => ?_
    exact h _ (List.mem_append_right _ (List.mem_map_of_mem he))
      (CaseRun.holds_of_eq (beq_iff_eq.mp heq).symm (Nat.le_refl _))
  have hruns : upperRuns.find? (fun r =>
      (CaseRun.mk r.1 r.2.1 r.2.2.1 r.2.2.2).holds c.toNat) = none :=
    List.find?_eq_none.mpr fun r hr => h _ (List.mem_append_left _ (List.mem_map_of_mem hr))
  unfold upper
  rw [hgrowing, hruns]

/-- A member of a run of capitals is the code of a character that stays, unless it is no code
at all. -/
theorem upper_ofNat_of_capital {r : CaseRun} (hr : r ∈ capitals) {n : Nat}
    (h : r.holds n = true) : upper (Char.ofNat n) = [Char.ofNat n] := by
  refine upper_eq_self fun q hq => ?_
  rcases Naming.toNat_ofNat_or n with hcode | hcode
  · rw [hcode]
    have havoids := List.all_eq_true.mp (List.all_eq_true.mp capitals_avoid r hr) q hq
    exact CaseRun.not_holds_of_avoids havoids h
  · rw [hcode]
    exact (by decide +kernel : ∀ q ∈ changing, ¬ q.holds 0 = true) q hq

/-- What the members of a run turn into is a run. -/
theorem holds_counterpart {r : Nat × Nat × Nat × Int} (hr : r ∈ upperRuns) {n : Nat}
    (h : (CaseRun.mk r.1 r.2.1 r.2.2.1 r.2.2.2).holds n = true) :
    (CaseRun.mk (r.1 + r.2.2.2).toNat (r.2.1 + r.2.2.2).toNat r.2.2.1 0).holds
      (n + r.2.2.2).toNat = true := by
  have hpos : 0 ≤ (r.1 : Int) + r.2.2.2 :=
    (by decide +kernel : ∀ r ∈ upperRuns, 0 ≤ (r.1 : Int) + r.2.2.2) r hr
  rw [CaseRun.holds_iff] at h ⊢
  obtain ⟨hlow, hhigh, hstep⟩ := h
  dsimp only at hlow hhigh hstep ⊢
  have hdistance : (n + r.2.2.2).toNat - (r.1 + r.2.2.2).toNat = n - r.1 := by omega
  exact ⟨by omega, by omega, hdistance ▸ hstep⟩

/-- **Upper case begins with a capital**, which it does not change again. -/
theorem upper_of_head?_upper {c d : Char} (h : (upper c).head? = some d) : upper d = [d] := by
  by_cases hstays : upper c = [c]
  · rw [hstays] at h
    rw [← Option.some.inj h]
    exact hstays
  · unfold upper at h hstays
    split at h
    · next e he =>
      rw [List.head?_map] at h
      obtain ⟨n, hn, rfl⟩ := Option.map_eq_some_iff.mp h
      have hcapital : ⟨n, n, 1, 0⟩ ∈ capitals :=
        List.mem_append_right _ (List.mem_filterMap.mpr
          ⟨e, List.mem_of_find?_eq_some he, by rw [hn]; rfl⟩)
      exact upper_ofNat_of_capital hcapital (CaseRun.holds_of_eq rfl (Nat.le_refl n))
    · next hgrowing =>
      rw [hgrowing] at hstays
      split at h
      · next r hr =>
        rw [← Option.some.inj h]
        have hmem := List.mem_of_find?_eq_some hr
        have hholds := List.find?_some hr
        exact upper_ofNat_of_capital (List.mem_append_left _ (List.mem_map_of_mem hmem))
          (holds_counterpart hmem hholds)
      · next hruns =>
        rw [hruns] at hstays
        exact absurd rfl hstays

/-- Upper case makes nothing vanish. -/
theorem upper_ne_nil (c : Char) : upper c ≠ [] := by
  unfold upper
  split
  · next e he =>
    have hgrows := (by decide : ∀ e ∈ upperGrowing, e.2 ≠ []) e (List.mem_of_find?_eq_some he)
    exact fun h => hgrows (List.map_eq_nil_iff.mp h)
  · split <;> exact List.cons_ne_nil _ _

end Text

namespace Naming

/-! ## The words of a name -/

/-- A word with its first character in upper case. -/
def capitalised : List Char → List Char
  | [] => []
  | c :: rest => Text.upper c ++ rest

/-- **Words are put together** one after the other, each with its first character in upper
case; where a word has begun already, it goes on as it is. -/
theorem pascalFrom_eq_words (cs : List Char) :
    pascalFrom true cs = (cs.splitOnP isSeparator).flatMap capitalised
      ∧ pascalFrom false cs = (cs.splitOnP isSeparator).headD []
        ++ (cs.splitOnP isSeparator).tail.flatMap capitalised := by
  induction cs with
  | nil => exact ⟨rfl, rfl⟩
  | cons c cs ih =>
    obtain ⟨hstart, hgoes⟩ := ih
    rw [List.splitOnP_cons_eq_if_modifyHead]
    cases hsep : isSeparator c with
    | true =>
      rw [pascalFrom_separator hsep, pascalFrom_separator hsep, hstart]
      exact ⟨rfl, rfl⟩
    | false =>
      rw [pascalFrom_word hsep, pascalFrom_word hsep, hgoes]
      cases hwords : cs.splitOnP isSeparator with
      | nil => exact absurd hwords (List.splitOnP_ne_nil _ _)
      | cons word words => exact ⟨(List.append_assoc _ _ _).symm, rfl⟩

/-! ## Separators -/

variable {cs : List Char}

/-- Of separators in front nothing is left. -/
theorem pascalFrom_append_of_separators (h : ∀ c ∈ cs, isSeparator c = true) (rest : List Char) :
    pascalFrom true (cs ++ rest) = pascalFrom true rest := by
  induction cs with
  | nil => rfl
  | cons c cs ih =>
    obtain ⟨hc, hcs⟩ := List.forall_mem_cons.mp h
    rw [List.cons_append, pascalFrom_separator hc, ih hcs]

/-- **Separators make their two sides independent.** -/
theorem pascalFrom_append_separators (hne : cs ≠ []) (h : ∀ c ∈ cs, isSeparator c = true)
    (start : Bool) (a b : List Char) :
    pascalFrom start (a ++ cs ++ b) = pascalFrom start a ++ pascalFrom true b := by
  cases cs with
  | nil => exact absurd rfl hne
  | cons c cs =>
    obtain ⟨hc, hcs⟩ := List.forall_mem_cons.mp h
    rw [List.append_assoc, List.cons_append, pascalFrom_append_separator hc,
      pascalFrom_append_of_separators hcs]

/-- **Nothing comes of separators** only. -/
theorem pascalFrom_eq_nil_iff {start : Bool} :
    pascalFrom start cs = [] ↔ ∀ c ∈ cs, isSeparator c = true := by
  induction cs generalizing start with
  | nil => exact ⟨fun _ _ hc => absurd hc List.not_mem_nil, fun _ => rfl⟩
  | cons c cs ih =>
    rw [List.forall_mem_cons]
    cases hsep : isSeparator c with
    | true =>
      rw [pascalFrom_separator hsep, ih]
      exact (and_iff_right rfl).symm
    | false =>
      have hne : (if start then Text.upper c else [c]) ≠ [] := by
        split
        · exact Text.upper_ne_nil c
        · exact List.cons_ne_nil _ _
      rw [pascalFrom_word hsep]
      exact ⟨fun h => absurd (List.append_eq_nil_iff.mp h).1 hne,
        fun h => absurd h.1 Bool.false_ne_true⟩

/-! ## Once more -/

/-- **Words that have been put together**: no separator is left, and what comes first is a
capital. -/
structure IsJoined (cs : List Char) : Prop where
  not_isSeparator : ∀ d ∈ cs, isSeparator d = false
  upper_head : ∀ d, cs.head? = some d → Text.upper d = [d]

theorem pascalFrom_false_of_not_isSeparator (h : ∀ d ∈ cs, isSeparator d = false) :
    pascalFrom false cs = cs := by
  induction cs with
  | nil => rfl
  | cons d cs ih =>
    obtain ⟨hd, hcs⟩ := List.forall_mem_cons.mp h
    rw [pascalFrom_word hd, ih hcs]
    rfl

/-- Where words have been put together, nothing is left to do. -/
theorem pascalFrom_of_isJoined (h : IsJoined cs) : pascalFrom true cs = cs := by
  cases cs with
  | nil => rfl
  | cons d cs =>
    obtain ⟨hd, hcs⟩ := List.forall_mem_cons.mp h.not_isSeparator
    rw [pascalFrom_word hd, pascalFrom_false_of_not_isSeparator hcs, if_pos rfl,
      h.upper_head d rfl]
    rfl

/-- Putting words together is done at once. -/
theorem isJoined_pascalFrom (cs : List Char) : IsJoined (pascalFrom true cs) := by
  refine ⟨fun d hd => not_isSeparator_of_mem_pascalFrom hd, ?_⟩
  induction cs with
  | nil => exact fun d hd => nomatch hd
  | cons c cs ih =>
    cases hsep : isSeparator c with
    | true =>
      rw [pascalFrom_separator hsep]
      exact ih
    | false =>
      intro d hd
      rw [pascalFrom_word hsep, if_pos rfl, List.head?_append_of_ne_nil _ (Text.upper_ne_nil c)]
        at hd
      exact Text.upper_of_head?_upper hd

/-- **The laws of putting words together.** Separators make their two sides independent. What
comes of a name is its words, each with its first character in upper case; there is no
separator left in it, nothing comes of separators only, and doing it once more changes
nothing. -/
theorem words_are_put_together :
    (∀ a seps b : String, seps ≠ "" → (∀ c ∈ seps.toList, isSeparator c = true) →
        pascal (a ++ seps ++ b) = pascal a ++ pascal b)
      ∧ ∀ name : String,
        (pascal name).toList = (name.toList.splitOnP isSeparator).flatMap capitalised
          ∧ (∀ d ∈ (pascal name).toList, isSeparator d = false)
          ∧ (pascal name = "" ↔ ∀ c ∈ name.toList, isSeparator c = true)
          ∧ pascal (pascal name) = pascal name := by
  constructor
  · intro a seps b hne hseps
    have hchars : seps.toList ≠ [] := fun h => hne (String.toList_eq_nil_iff.mp h)
    rw [← String.toList_inj, String.toList_append, toList_pascal, toList_pascal, toList_pascal,
      String.toList_append, String.toList_append]
    exact pascalFrom_append_separators hchars hseps true a.toList b.toList
  · intro name
    have hjoined := isJoined_pascalFrom name.toList
    refine ⟨?_, ?_, ?_, ?_⟩
    · rw [toList_pascal]
      exact (pascalFrom_eq_words name.toList).1
    · rw [toList_pascal]
      exact hjoined.not_isSeparator
    · rw [← String.toList_eq_nil_iff, toList_pascal]
      exact pascalFrom_eq_nil_iff
    · rw [← String.toList_inj, toList_pascal, toList_pascal]
      exact pascalFrom_of_isJoined hjoined

/-- A sharp s grows in front of a word, and a line break between words counts with the
hyphen beside it. -/
theorem streets_are_put_together :
    "\n-" ≠ "" ∧ (∀ c ∈ "\n-".toList, isSeparator c = true)
      ∧ pascal ("ßtreet_name" ++ "\n-" ++ "no. 1") = "SStreetName" ++ "No.1" := by
  have hseps : ∀ c ∈ "\n-".toList, isSeparator c = true :=
    List.all_eq_true.mp (by decide +kernel)
  refine ⟨by decide, hseps, ?_⟩
  rw [words_are_put_together.1 "ßtreet_name" "\n-" "no. 1" (by decide) hseps]
  decide +kernel

end Naming

end CollectionTypes
