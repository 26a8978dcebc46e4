import CollectionTypes.Proofs.Value.Parallel
import CollectionTypes.Text.Newline

/-!
# Line ends do not matter

A text and the same text with its line ends unified run in parallel
(`Reader.parallel_unified`, `Reader.parallel_of_unified`): between tokens a line end is a
blank either way, and inside of a text every line end is a control character, be it on its own
or behind a backslash. So both are read as the same value, and both exceed the same limit if
any (`Value.readChars_unified`).
-/

namespace CollectionTypes

open Outcome

/-! ## Whole texts -/

namespace Reader

variable {cs ds : List Char} {v : Value}

/-- **A value fills a text** that does not begin with the mark of its byte order if nothing but
blanks is behind the value. -/
theorem whole_ok_iff {fuel : Nat} (hfuel : 2 * cs.length + 1 ≤ fuel) :
    whole cs = .ok v ↔ (∀ tail, cs ≠ '\uFEFF' :: tail)
      ∧ ∃ rest, value fuel maxDepth (skip cs) = .ok (v, rest) ∧ skip rest = [] := by
  have hskip := length_skip_le cs
  rw [value_congr maxDepth (n := 2 * cs.length + 2) (by omega) (by omega)]
  unfold whole
  split
  · next tail =>
    constructor
    · intro h
      cases h
    · rintro ⟨hmark, -⟩
      exact absurd rfl (hmark tail)
  · next hmark =>
    rw [bind_ok_iff, and_iff_right fun tail heq => hmark tail heq]
    constructor
    · rintro ⟨⟨w, rest⟩, hvalue, hrest⟩
      dsimp only at hrest
      split at hrest
      · next heq =>
        cases hrest
        exact ⟨rest, hvalue, heq⟩
      · cases hrest
    · rintro ⟨rest, hvalue, hrest⟩
      refine ⟨(v, rest), hvalue, ?_⟩
      dsimp only
      rw [hrest]
      rfl

/-- A text exceeds a limit if the value at its front does. -/
theorem whole_excess_iff {fuel : Nat} (hfuel : 2 * cs.length + 1 ≤ fuel) {e : Excess} :
    whole cs = .error (.excess e) ↔ (∀ tail, cs ≠ '\uFEFF' :: tail)
      ∧ value fuel maxDepth (skip cs) = .error (.excess e) := by
  have hskip := length_skip_le cs
  rw [value_congr maxDepth (n := 2 * cs.length + 2) (by omega) (by omega)]
  unfold whole
  split
  · next tail =>
    constructor
    · intro h
      cases h
    · rintro ⟨hmark, -⟩
      exact absurd rfl (hmark tail)
  · next hmark =>
    rw [bind_error_iff, and_iff_right fun tail heq => hmark tail heq]
    refine or_iff_left ?_
    rintro ⟨⟨w, rest⟩, -, hrest⟩
    dsimp only at hrest
    split at hrest <;> cases hrest

/-- **Whole texts that run in parallel** and end together hold the same value, or exceed the
same limit. -/
theorem Parallel.whole {R : List Char → List Char → Prop} (h : Parallel R)
    (hend : ∀ ds, R [] ds → ds = []) (hR : R cs ds) :
    (∀ v, whole cs = .ok v → whole ds = .ok v)
      ∧ ∀ e, whole cs = .error (.excess e) → whole ds = .error (.excess e) := by
  have hfollows := (h.readers (max (2 * cs.length + 1) (2 * ds.length + 1))).1 maxDepth (h.blanks hR)
  have hmark : (∀ tail, cs ≠ '\uFEFF' :: tail) → ∀ tail, ds ≠ '\uFEFF' :: tail := by
    rintro hcs tail rfl
    obtain ⟨cs', rfl⟩ := h.back hR (by decide)
    exact hcs cs' rfl
  constructor
  · intro v hcs
    obtain ⟨hno, rest, hvalue, hrest⟩ := (whole_ok_iff (Nat.le_max_left _ _)).mp hcs
    obtain ⟨rest', hvalue', hR'⟩ := hfollows.ok hvalue
    exact (whole_ok_iff (Nat.le_max_right _ _)).mpr
      ⟨hmark hno, rest', hvalue', hend _ (hrest ▸ h.blanks hR')⟩
  · intro e hcs
    obtain ⟨hno, hvalue⟩ := (whole_excess_iff (Nat.le_max_left _ _)).mp hcs
    exact (whole_excess_iff (Nat.le_max_right _ _)).mpr ⟨hmark hno, hfollows.excess hvalue⟩

end Reader

/-! ## Unified line ends -/

namespace Text

variable {c : Char} {cs ds : List Char}

theorem unifyLineEnds_cons (hc : c ≠ '\r') (cs : List Char) :
    unifyLineEnds (c :: cs) = c :: unifyLineEnds cs := by
  rw [unifyLineEnds, if_neg hc]
  rintro rest rfl
  exact absurd rfl hc

/-- What is part of no line end stands where it stood. -/
theorem unifyLineEnds_eq_cons (h : unifyLineEnds cs = c :: ds) (hc : c ≠ '\n') :
    ∃ cs', cs = c :: cs' ∧ unifyLineEnds cs' = ds := by
  unfold unifyLineEnds at h
  split at h
  · cases h
  · exact absurd (List.cons.inj h).1.symm hc
  · next d rest hne =>
    split_ifs at h with hd
    · exact absurd (List.cons.inj h).1.symm hc
    · cases h
      exact ⟨rest, rfl, rfl⟩

theorem unifyLineEnds_eq_nil (h : unifyLineEnds cs = []) : cs = [] := by
  unfold unifyLineEnds at h
  split at h
  · rfl
  · cases h
  · cases h

/-- Blanks stay blanks. -/
theorem skip_unifyLineEnds (cs : List Char) :
    Reader.skip (unifyLineEnds cs) = unifyLineEnds (Reader.skip cs) := by
  fun_induction unifyLineEnds cs with
  | case1 => rfl
  | case2 rest ih => exact ih
  | case3 c rest hne ih =>
    by_cases hblank : Reader.isBlank c = true
    · have hblank' : Reader.isBlank (if c = '\r' then '\n' else c) = true := by
        split_ifs
        · rfl
        · exact hblank
      have hskip : Reader.skip (c :: rest) = Reader.skip rest := List.dropWhile_cons_of_pos hblank
      rw [hskip, ← ih]
      exact List.dropWhile_cons_of_pos hblank'
    · have hc : c ≠ '\r' := by
        rintro rfl
        exact hblank rfl
      rw [if_neg hc, Reader.skip_of_not_isBlank (Bool.eq_false_iff.mpr hblank),
        Reader.skip_of_not_isBlank (Bool.eq_false_iff.mpr hblank), unifyLineEnds_cons hc]

end Text

namespace Reader

/-- **A text beside the same with its line ends unified.** -/
theorem parallel_unified : Parallel fun cs ds => Text.unifyLineEnds cs = ds where
  forth := by
    rintro c cs _ rfl hc
    exact ⟨_, Text.unifyLineEnds_cons hc.1 cs, rfl⟩
  back h hc := by
    obtain ⟨cs', rfl, -⟩ := Text.unifyLineEnds_eq_cons h (inline_of_not_isBlank hc.1).2
    exact ⟨cs', rfl⟩
  blanks := by
    rintro cs _ rfl
    exact (Text.skip_unifyLineEnds cs).symm

/-- The same the other way round. -/
theorem parallel_of_unified : Parallel fun ds cs => Text.unifyLineEnds cs = ds where
  forth h hc := Text.unifyLineEnds_eq_cons h hc.2
  back h hc := ⟨_, h.symm.trans (Text.unifyLineEnds_cons (inline_of_not_isBlank hc.1).1 _)⟩
  blanks := by
    rintro _ cs rfl
    exact (Text.skip_unifyLineEnds cs).symm

end Reader

namespace Value

variable {cs : List Char} {v : Value}

theorem readChars_ok_iff : readChars cs = .ok v ↔ Reader.whole cs = .ok v := by
  unfold readChars
  split <;> simp [*]

theorem readChars_excess_iff {e : Excess} :
    readChars cs = .error (.excess e) ↔ Reader.whole cs = .error (.excess e) := by
  unfold readChars
  split <;> simp [*]

/-- **Line ends do not matter** to a reader. -/
theorem readChars_unified (cs : List Char) :
    (∀ v, readChars (Text.unifyLineEnds cs) = .ok v ↔ readChars cs = .ok v)
      ∧ ∀ e, readChars (Text.unifyLineEnds cs) = .error (.excess e)
        ↔ readChars cs = .error (.excess e) := by
  have hforth := Reader.parallel_unified.whole (fun _ h => h.symm) (rfl : Text.unifyLineEnds cs = _)
  have hback : (∀ v, Reader.whole (Text.unifyLineEnds cs) = .ok v → Reader.whole cs = .ok v) ∧ _ :=
    Reader.parallel_of_unified.whole (fun _ h => Text.unifyLineEnds_eq_nil h) rfl
  simp only [readChars_ok_iff, readChars_excess_iff]
  exact ⟨fun v => ⟨hback.1 v, hforth.1 v⟩, fun e => ⟨hback.2 e, hforth.2 e⟩⟩

end Value

end CollectionTypes
