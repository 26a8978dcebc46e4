import CollectionTypes.Proofs.Value.Writable

/-!
# Texts and numbers that are read back

A reader takes off exactly what a writer wrote. Between quotes it takes one character for
each that was written, whatever had to be escaped (`Reader.text_escaped`), so a text comes
back whole (`Reader.quotedText_written`). A whole number comes back from its digits, if they
are not too many and nothing behind them goes on with the number
(`Reader.number_written`).
-/

namespace CollectionTypes

namespace Writer

theorem escaped_ne_nil (c : Char) : escaped c ≠ [] := by
  unfold escaped
  intro h
  split_ifs at h

end Writer

namespace Reader

variable {cs rest : List Char} {c : Char}

/-! ## Blanks -/

theorem skip_of_not_isBlank (h : isBlank c = false) (cs : List Char) : skip (c :: cs) = c :: cs :=
  List.dropWhile_cons_of_neg (Bool.eq_false_iff.mp h)

theorem skip_of_blanks {bs : List Char} (h : ∀ c ∈ bs, isBlank c = true) (cs : List Char) :
    skip (bs ++ cs) = skip cs :=
  List.dropWhile_append_of_pos h

/-- A new line and its indentation are blanks. -/
theorem skip_newLine (depth : Nat) (cs : List Char) :
    skip (Writer.newLine depth ++ cs) = skip cs := by
  have hblank : ∀ c ∈ Writer.newLine depth, isBlank c = true := by
    intro c hc
    rcases List.mem_cons.mp hc with rfl | hc
    · rfl
    · rw [List.eq_of_mem_replicate hc]
      rfl
  exact skip_of_blanks hblank cs

/-! ## Texts -/

theorem fourHex?_append {n : Nat} {behind : List Char} (h : fourHex? cs = some (n, behind))
    (rest : List Char) : fourHex? (cs ++ rest) = some (n, behind ++ rest) := by
  unfold fourHex? at h
  split at h
  · obtain ⟨a, ha, h⟩ := Option.bind_eq_some_iff.mp h
    obtain ⟨b, hb, h⟩ := Option.bind_eq_some_iff.mp h
    obtain ⟨c, hc, h⟩ := Option.bind_eq_some_iff.mp h
    obtain ⟨d, hd, h⟩ := Option.bind_eq_some_iff.mp h
    cases h
    simp only [fourHex?, List.cons_append, ha, hb, hc, hd]
    rfl
  · cases h

/-- The code of a control character is read back. -/
theorem fourHex?_hexPadded {n : Nat} (h : n < 0x20) (rest : List Char) :
    fourHex? (Text.hexPadded 4 n ++ rest) = some (n, rest) :=
  fourHex?_append ((by decide : ∀ n < 0x20, fourHex? (Text.hexPadded 4 n) = some (n, [])) n h) rest

section Inside

variable (opening : List Char) (fuel : Nat)

/-- Reading on behind a character. -/
def readOn (c : Char) (rest : List Char) : Except Stuck (List Char × List Char) :=
  (text opening fuel rest).map fun r => (c :: r.1, r.2)

theorem text_letter {e d : Char} (he : simpleEscape? e = some d) (hu : e ≠ 'u')
    (rest : List Char) :
    text opening (fuel + 1) ('\\' :: e :: rest) = readOn opening fuel d rest := by
  rw [text, if_neg (by decide), if_pos rfl]
  dsimp only
  rw [if_neg hu, he]
  unfold readOn
  cases text opening fuel rest <;> rfl

theorem text_code (hc : c.toNat < 0x20) (hrest : rest ≠ []) :
    text opening (fuel + 1) ('\\' :: 'u' :: (Text.hexPadded 4 c.toNat ++ rest))
      = readOn opening fuel c rest := by
  have hhalf : isHighHalf c.toNat = false ∧ isLowHalf c.toNat = false := by
    unfold isHighHalf isLowHalf
    simp only [Bool.and_eq_false_iff, decide_eq_false_iff_not]
    omega
  have hchar : charOfCode c.toNat = c := by
    unfold charOfCode
    rw [hhalf.1, hhalf.2, Bool.or_false, if_neg Bool.false_ne_true, Char.ofNat_toNat]
  have hcode : codeEscape ('u' :: (Text.hexPadded 4 c.toNat ++ rest)) = .ok (c, rest) := by
    unfold codeEscape
    rw [List.drop_one, List.tail_cons, fourHex?_hexPadded hc]
    dsimp only
    rw [if_neg (by simpa using hrest), hhalf.1, Bool.false_and, if_neg Bool.false_ne_true, hchar]
  rw [text, if_neg (by decide), if_pos rfl]
  dsimp only
  rw [if_pos rfl, hcode]
  unfold readOn
  show (text opening fuel rest >>= _) = _
  cases text opening fuel rest <;> rfl

/-- **A character comes back** from how it is written in a text. -/
theorem text_escaped (c : Char) (hrest : rest ≠ []) :
    text opening (fuel + 1) (Writer.escaped c ++ rest) = readOn opening fuel c rest := by
  unfold Writer.escaped
  split_ifs with hquote hbackslash hline hreturn htab hfeed hback hcontrol
  · rw [hquote]
    exact text_letter opening fuel rfl (by decide) rest
  · rw [hbackslash]
    exact text_letter opening fuel rfl (by decide) rest
  · rw [hline]
    exact text_letter opening fuel rfl (by decide) rest
  · rw [hreturn]
    exact text_letter opening fuel rfl (by decide) rest
  · rw [htab]
    exact text_letter opening fuel rfl (by decide) rest
  · rw [hfeed]
    exact text_letter opening fuel rfl (by decide) rest
  · rw [hback]
    exact text_letter opening fuel rfl (by decide) rest
  · exact text_code opening fuel hcontrol hrest
  · rw [List.singleton_append, text.eq_def]
    dsimp only
    rw [if_neg hquote, if_neg hbackslash, if_neg hcontrol]
    unfold readOn
    cases text opening fuel rest <;> rfl

end Inside

/-- **The inside of a text comes back**, up to its closing quote. -/
theorem text_written (opening cs rest : List Char) {fuel : Nat}
    (h : (cs.flatMap Writer.escaped).length < fuel) :
    text opening fuel (cs.flatMap Writer.escaped ++ '"' :: rest) = .ok (cs, rest) := by
  induction cs generalizing fuel with
  | nil =>
    obtain ⟨fuel, rfl⟩ := Nat.exists_eq_add_one_of_ne_zero (Nat.ne_zero_of_lt h)
    rfl
  | cons c cs ih =>
    obtain ⟨fuel, rfl⟩ := Nat.exists_eq_add_one_of_ne_zero (Nat.ne_zero_of_lt h)
    have hpos := List.length_pos_iff.mpr (Writer.escaped_ne_nil c)
    rw [List.flatMap_cons, List.length_append] at h
    rw [List.flatMap_cons, List.append_assoc, text_escaped _ _ _ (by simp), readOn,
      ih (by omega)]
    rfl

/-- **A text comes back** from between its quotes. -/
theorem quotedText_written (s : String) (rest : List Char) :
    quotedText (Writer.text s ++ rest) = .ok (s, rest) := by
  have hinside : Writer.text s ++ rest
      = '"' :: (s.toList.flatMap Writer.escaped ++ '"' :: rest) := by
    simp [Writer.text]
  have hfuel : (s.toList.flatMap Writer.escaped).length < (Writer.text s ++ rest).length := by
    rw [hinside]
    simp only [List.length_cons, List.length_append]
    omega
  have htext := text_written (Writer.text s ++ rest) s.toList rest hfuel
  unfold quotedText
  rw [hinside] at htext ⊢
  rw [List.drop_one, List.tail_cons, htext]
  show Except.ok (String.ofList s.toList, rest) = _
  rw [String.ofList_toList]

/-! ## Whole numbers -/

/-- **Digits come back**: they write their number. -/
theorem natOfDigits_toDigits (n : Nat) : natOfDigits (Nat.toDigits 10 n) = n :=
  (Nat.ofDigitChars_eq_foldl ..).symm.trans (Nat.ofDigitChars_ten_toDigits ..)

theorem exists_toDigits_eq_cons (n : Nat) :
    ∃ d ds, Nat.toDigits 10 n = d :: ds ∧ d.isDigit = true := by
  obtain ⟨d, ds, hds⟩ := List.exists_cons_of_ne_nil (Nat.toDigits_ne_nil (n := n) (b := 10))
  have hmem : d ∈ Nat.toDigits 10 n := hds ▸ List.mem_cons_self
  exact ⟨d, ds, hds, Nat.isDigit_of_mem_toDigits (by decide) (by decide) hmem⟩

/-- Only zero is written with a zero in front. -/
theorem eq_zero_of_head?_toDigits {n : Nat} (h : (Nat.toDigits 10 n).head? = some '0') :
    n = 0 := by
  induction n using Nat.strongRecOn with
  | ind n ih =>
    by_cases hn : n < 10
    · rw [Nat.toDigits_of_lt_base hn] at h
      exact (by decide : ∀ n < 10, [n.digitChar].head? = some '0' → n = 0) n hn h
    · have hsplit : Nat.toDigits 10 n = Nat.toDigits 10 (n / 10) ++ [(n % 10).digitChar] := by
        rw [Nat.toDigits_eq_if (by decide), if_neg hn]
      rw [hsplit, List.head?_append_of_ne_nil _ Nat.toDigits_ne_nil] at h
      have hzero := ih (n / 10) (by omega) h
      omega

/-- **What ends a number**: nothing more, a comma or a new line. -/
def Ends (rest : List Char) : Prop :=
  ∀ c ∈ rest.head?, c = ',' ∨ c = '\n'

theorem ends_nil : Ends [] :=
  fun _ hc => nomatch hc

theorem ends_cons (h : c = ',' ∨ c = '\n') (rest : List Char) : Ends (c :: rest) := by
  rintro _ ⟨rfl⟩
  exact h

theorem digits_toDigits (n : Nat) (hrest : Ends rest) :
    digits (Nat.toDigits 10 n ++ rest) = (Nat.toDigits 10 n, rest) := by
  have hinside : ∀ c ∈ Nat.toDigits 10 n, c.isDigit = true := fun _ hc =>
    Nat.isDigit_of_mem_toDigits (by decide) (by decide) hc
  unfold digits
  rw [List.takeWhile_append_of_pos hinside, List.dropWhile_append_of_pos hinside]
  cases rest with
  | nil => rw [List.takeWhile_nil, List.dropWhile_nil, List.append_nil]
  | cons c rest =>
    have hc : ¬ c.isDigit = true := by
      rcases hrest c rfl with rfl | rfl <;> decide
    rw [List.takeWhile_cons_of_neg hc, List.dropWhile_cons_of_neg hc, List.append_nil]

/-- **The digits of a number are taken off**, and nothing else. -/
theorem wholePart_toDigits (n : Nat) (hrest : Ends rest) :
    wholePart (Nat.toDigits 10 n ++ rest) = (Nat.toDigits 10 n, rest) := by
  unfold wholePart
  split
  · next tail heq =>
    have hhead : (Nat.toDigits 10 n).head? = some '0' := by
      rw [← List.head?_append_of_ne_nil (Nat.toDigits 10 n) Nat.toDigits_ne_nil, heq]
      rfl
    obtain rfl := eq_zero_of_head?_toDigits hhead
    rw [(List.cons.inj heq).2.symm]
    rfl
  · exact digits_toDigits n hrest

theorem fraction_of_ends (hrest : Ends rest) : fraction rest = ([], rest) := by
  unfold fraction
  split
  · rcases hrest '.' rfl with h | h <;> cases h
  · rfl

theorem exponent_of_ends (hrest : Ends rest) : exponent rest = (none, rest) := by
  unfold exponent
  split
  · next c tail =>
    rw [if_neg]
    rintro (rfl | rfl) <;> rcases hrest _ rfl with h | h <;> cases h
  · rfl

/-- A whole number is written with its sign in front of its digits. -/
theorem toList_toString_int (n : Int) :
    (toString n).toList = (if n < 0 then ['-'] else []) ++ Nat.toDigits 10 n.natAbs := by
  have hnat : ∀ m : Nat, (toString m).toList = Nat.toDigits 10 m := fun m => by
    rw [Nat.toString_eq_ofList_toDigits, String.toList_ofList]
  cases n with
  | ofNat m =>
    rw [if_neg (by simp), List.nil_append]
    exact hnat m
  | negSucc m =>
    rw [if_pos (Int.negSucc_lt_zero m)]
    show ("-" ++ toString (m + 1)).toList = _
    rw [String.toList_append, hnat]
    rfl

/-- The sign is taken off. -/
theorem minus_toString (n : Int) (rest : List Char) :
    minus ((toString n).toList ++ rest) = (decide (n < 0), Nat.toDigits 10 n.natAbs ++ rest) := by
  rw [toList_toString_int]
  by_cases hn : n < 0
  · rw [if_pos hn, decide_eq_true hn]
    rfl
  · rw [if_neg hn, decide_eq_false hn, List.nil_append]
    obtain ⟨d, ds, hds, hd⟩ := exists_toDigits_eq_cons n.natAbs
    rw [hds, List.cons_append]
    unfold minus
    split
    · next tail heq =>
      -- a digit is no sign
      rw [(List.cons.inj heq).1] at hd
      exact absurd hd (by decide)
    · rfl

/-- **A whole number comes back** from its digits. -/
theorem number_written {n : Int} (hn : (Value.int n).isWritable = true) (hrest : Ends rest) :
    number ((toString n).toList ++ rest) = .ok (.int n, rest) := by
  have hfew : ¬ Text.maxDigits < (Nat.toDigits 10 n.natAbs).length := by
    rw [Value.isWritable, decide_eq_true_iff] at hn
    exact Nat.not_lt.mpr hn
  have hsign : (if decide (n < 0) = true then -(n.natAbs : Int) else n.natAbs) = n := by
    by_cases hneg : n < 0
    · rw [decide_eq_true hneg, if_pos rfl]
      omega
    · rw [decide_eq_false hneg, if_neg Bool.false_ne_true]
      omega
  unfold number
  rw [minus_toString]
  dsimp only
  rw [wholePart_toDigits _ hrest]
  dsimp only
  rw [if_neg (by simp [Nat.toDigits_ne_nil]), fraction_of_ends hrest]
  dsimp only
  rw [exponent_of_ends hrest]
  dsimp only
  rw [List.isEmpty_nil, Option.isNone_none, Bool.and_self, if_pos rfl, if_neg hfew,
    natOfDigits_toDigits, hsign]

end Reader

end CollectionTypes
