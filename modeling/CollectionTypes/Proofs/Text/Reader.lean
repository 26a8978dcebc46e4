import CollectionTypes.Text.Blank
import CollectionTypes.Text.Cut
import Mathlib.Data.List.Basic

/-!
# Reading off the front of a text

A `Reader` takes something off the front of a text and gives back what is
left. What a reader is good for is said by `Reader.Reads`: it takes exactly
what is written, whatever follows. Readers that do so for each of some things
do so for all of them in a row, if it is known how many there are
(`Reader.times_flatMap`) or if what follows cannot be read
(`Reader.many_flatMap`).

`Reader.word` reads a word: characters that are neither blank nor a comma.

A text can be cut up at a character side by side (`cutAt_append`).
-/

namespace CollectionTypes.Text

/-- **A reader** of things off the front of a text. -/
abbrev Reader (α : Type) := List Char → Option (α × List Char)

theorem isPrefixOf?_append (as rest : List Char) : as.isPrefixOf? (as ++ rest) = some rest :=
  List.isPrefixOf?_eq_some_iff_append_eq.mpr rfl

/-- What begins otherwise is not taken off the front. -/
theorem isPrefixOf?_cons_of_ne {a c : Char} (h : a ≠ c) (as cs : List Char) :
    (a :: as).isPrefixOf? (c :: cs) = none := by
  rw [List.isPrefixOf?, if_neg (fun hac => h (eq_of_beq hac))]

namespace Reader

variable {α : Type}

/-- **A reader reads what is written**, whatever follows it. -/
def Reads (p : Reader α) (written : List Char) (a : α) : Prop :=
  ∀ rest, p (written ++ rest) = some (a, rest)

/-! ## Things in a row -/

/-- As many things as can be read. -/
def many (p : Reader α) (cs : List Char) : List α × List Char :=
  match p cs with
  | none => ([], cs)
  | some (a, rest) =>
    if rest.length < cs.length then
      let (as, rest) := many p rest
      (a :: as, rest)
    else ([a], rest)
termination_by cs.length

/-- A number of things. -/
def times (p : Reader α) : Nat → Reader (List α)
  | 0, cs => some ([], cs)
  | n + 1, cs => do
    let (a, cs) ← p cs
    let (as, cs) ← times p n cs
    return (a :: as, cs)

variable {p : Reader α} {write : α → List Char}

/-- **What is written in a row is read**, up to what cannot be read. A thing
may be read only before something of a kind `P`; then whatever is written is of
that kind. -/
theorem many_flatMap {as : List α} (P : List Char → Prop)
    (h : ∀ a ∈ as, ∀ rest, P rest → p (write a ++ rest) = some (a, rest))
    (hwritten : ∀ a ∈ as, ∀ rest, P (write a ++ rest)) (hne : ∀ a ∈ as, write a ≠ [])
    {rest : List Char} (hrest : P rest) (hend : p rest = none) :
    many p (as.flatMap write ++ rest) = (as, rest) := by
  induction as with
  | nil =>
    rw [many, List.flatMap_nil, List.nil_append, hend]
  | cons a as ih =>
    rw [List.forall_mem_cons] at h hwritten hne
    have hbefore : P (as.flatMap write ++ rest) := by
      cases as with
      | nil => exact hrest
      | cons b as =>
        rw [List.flatMap_cons, List.append_assoc]
        exact hwritten.2 b List.mem_cons_self _
    have hshorter : (as.flatMap write ++ rest).length
        < (write a ++ (as.flatMap write ++ rest)).length := by
      have hpos := List.length_pos_iff.mpr hne.1
      simp only [List.length_append]
      omega
    rw [List.flatMap_cons, List.append_assoc, many, h.1 _ hbefore]
    dsimp only
    rw [if_pos hshorter, ih h.2 hwritten.2 hne.2]

/-- **What is written in a row is read**, if it is known how much there is. -/
theorem times_flatMap {as : List α} (h : ∀ a ∈ as, p.Reads (write a) a) :
    (times p as.length).Reads (as.flatMap write) as := by
  intro rest
  induction as with
  | nil => rfl
  | cons a as ih =>
    rw [List.forall_mem_cons] at h
    rw [List.flatMap_cons, List.append_assoc, List.length_cons, times, h.1]
    show (times p as.length (as.flatMap write ++ rest)).bind _ = _
    rw [ih h.2]
    rfl

/-! ## Words -/

/-- Whether a character can stand in a word: neither a blank nor a comma. -/
def inWord (c : Char) : Bool :=
  !isBlank c && c != ','

/-- A word. -/
def word : Reader String := fun cs =>
  let w := cs.takeWhile inWord
  if w.isEmpty then none else some (String.ofList w, cs.dropWhile inWord)

/-- **A text that is one word.** -/
structure IsWord (s : String) : Prop where
  ne : s ≠ ""
  inside : ∀ c ∈ s.toList, inWord c = true

instance (s : String) : Decidable (IsWord s) :=
  decidable_of_iff (s ≠ "" ∧ s.toList.all inWord = true)
    ⟨fun h => ⟨h.1, List.all_eq_true.mp h.2⟩, fun h => ⟨h.ne, List.all_eq_true.mpr h.inside⟩⟩

variable {s : String} {c : Char}

theorem IsWord.not_mem (h : IsWord s) (hc : inWord c = false) : c ∉ s.toList := by
  intro hmem
  rw [h.inside c hmem] at hc
  cases hc

theorem IsWord.toList_ne (h : IsWord s) : s.toList ≠ [] :=
  fun hnil => h.ne (String.toList_inj.mp hnil)

/-- **A word is read** up to what cannot stand in one. -/
theorem word_append (h : IsWord s) (hc : inWord c = false) (rest : List Char) :
    word (s.toList ++ c :: rest) = some (s, c :: rest) := by
  have hend : ¬ inWord c = true := Bool.eq_false_iff.mp hc
  unfold word
  rw [List.takeWhile_append_of_pos h.inside, List.takeWhile_cons_of_neg hend,
    List.dropWhile_append_of_pos h.inside, List.dropWhile_cons_of_neg hend, List.append_nil]
  dsimp only
  rw [if_neg (fun hempty => h.toList_ne (List.isEmpty_iff.mp hempty)), String.ofList_toList]

/-- A word that ends otherwise does not begin with a character and what would have
ended it. -/
theorem IsWord.isPrefixOf?_eq_none (h : IsWord s) {a d : Char} (hd : inWord d = false)
    (hdc : d ≠ c) (as rest : List Char) :
    (a :: d :: as).isPrefixOf? (s.toList ++ c :: rest) = none := by
  rw [← Option.not_isSome_iff_eq_none, Option.isSome_iff_exists]
  rintro ⟨tail, htail⟩
  have hstart : a :: d :: (as ++ tail) = s.toList ++ c :: rest :=
    List.isPrefixOf?_eq_some_iff_append_eq.mp htail
  have hend : d ∉ s.toList := h.not_mem hd
  cases hchars : s.toList with
  | nil => exact h.toList_ne hchars
  | cons b bs =>
    rw [hchars] at hstart hend
    have hsecond : d :: (as ++ tail) = bs ++ c :: rest := (List.cons.inj hstart).2
    cases bs with
    | nil => exact hdc (List.cons.inj hsecond).1
    | cons b' bs =>
      refine hend (List.mem_cons_of_mem _ ?_)
      rw [(List.cons.inj hsecond).1]
      exact List.mem_cons_self

/-! ## Up to a character -/

variable {d : Char} {as : List Char}

theorem bne_of_mem (h : d ∉ as) : ∀ a ∈ as, (a != d) = true :=
  fun _ ha => bne_iff_ne.mpr fun had => h (had ▸ ha)

theorem before_append (h : d ∉ as) (rest : List Char) : before d (as ++ d :: rest) = as := by
  unfold before
  rw [List.takeWhile_append_of_pos (bne_of_mem h), List.takeWhile_cons_of_neg (by simp),
    List.append_nil]

theorem behind_append (h : d ∉ as) (rest : List Char) : behind d (as ++ d :: rest) = rest := by
  unfold behind
  rw [List.dropWhile_append_of_pos (bne_of_mem h), List.dropWhile_cons_of_neg (by simp)]
  rfl

end Reader

/-! ## Cutting at a character -/

section Cutting

variable {d : Char} {as : List Char}

/-- A text that is cut in two can be cut up side by side. -/
theorem cutAt_append (d : Char) (as bs : List Char) :
    cutAt d (as ++ d :: bs) = cutAt d as ++ cutAt d bs := by
  induction as with
  | nil =>
    have hcut : cutAt d (d :: bs) = [] :: cutAt d bs := by
      rw [cutAt, if_pos rfl]
    rw [List.nil_append, hcut]
    rfl
  | cons a as ih =>
    rw [List.cons_append, cutAt, cutAt]
    split
    · rw [ih, List.cons_append]
    · rw [ih]
      cases hpieces : cutAt d as with
      | nil => exact absurd hpieces (cutAt_ne_nil d as)
      | cons first others => rfl

/-- A text without the character is one piece. -/
theorem cutAt_of_not_mem (h : d ∉ as) : cutAt d as = [as] := by
  induction as with
  | nil => rfl
  | cons a as ih =>
    rw [List.mem_cons, not_or] at h
    rw [cutAt, if_neg (fun had => h.1 had.symm), ih h.2]

end Cutting

end CollectionTypes.Text
