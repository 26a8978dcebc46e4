import CollectionTypes.Proofs.Value.Tokens

/-!
# How a text is spelt

The inside of a text is spelt character by character, up to its closing quote: a character
stands for itself, a backslash and a letter stand for one, and a backslash and a code for
one or, with the other half of a pair, for one together (`Reader.Code`, `Reader.Inside`).

A reader looks at how much is left of the text before it takes two codes for a pair. That
never matters in a text that is closed: where too little is left for a pair, the second code
is not followed by a quote. So a reader takes exactly what is spelt
(`Reader.quotedText_ok_iff`), and what is behind a text has no bearing on how it is read.
-/

namespace CollectionTypes

namespace Reader

open Outcome

/-- The character of a pair. -/
def pairChar (high low : Nat) : Char :=
  Char.ofNat (0x10000 + (high - 0xD800) * 0x400 + (low - 0xDC00))

/-- **What a code stands for**: it is half of a pair if the other half follows at once. -/
inductive Code : List Char → Char → List Char → Prop
  | pair {cs digits rest : List Char} {high low : Nat}
      (hhigh : fourHex? cs = some (high, '\\' :: 'u' :: digits)) (hfirst : isHighHalf high = true)
      (hlow : fourHex? digits = some (low, rest)) (hsecond : isLowHalf low = true) :
      Code cs (pairChar high low) rest
  | alone {cs rest : List Char} {code : Nat} (hcode : fourHex? cs = some (code, rest))
      (halone : isHighHalf code = true → ∀ digits low rest', rest = '\\' :: 'u' :: digits →
        fourHex? digits = some (low, rest') → isLowHalf low = false) :
      Code cs (charOfCode code) rest

/-- **The inside of a text**, the characters it spells, and what is behind its closing
quote. -/
inductive Inside : List Char → List Char → List Char → Prop
  | close (rest : List Char) : Inside ('"' :: rest) [] rest
  | plain {c : Char} {cs ds rest : List Char} (hquote : c ≠ '"') (hbackslash : c ≠ '\\')
      (hcontrol : ¬ c.toNat < 0x20) (hin : Inside cs ds rest) : Inside (c :: cs) (c :: ds) rest
  | letter {e d : Char} {cs ds rest : List Char} (he : simpleEscape? e = some d)
      (hin : Inside cs ds rest) : Inside ('\\' :: e :: cs) (d :: ds) rest
  | code {c : Char} {cs ds behind rest : List Char} (hcode : Code cs c behind)
      (hin : Inside behind ds rest) : Inside ('\\' :: 'u' :: cs) (c :: ds) rest

variable {c : Char} {cs ds digits behind rest : List Char}

theorem Inside.ne_nil (h : Inside cs ds rest) : cs ≠ [] := by
  cases h <;> exact List.cons_ne_nil _ _

theorem length_of_fourHex? {n : Nat} (h : fourHex? cs = some (n, rest)) :
    cs.length = rest.length + 4 := by
  unfold fourHex? at h
  split at h
  · obtain ⟨a, -, h⟩ := Option.bind_eq_some_iff.mp h
    obtain ⟨b, -, h⟩ := Option.bind_eq_some_iff.mp h
    obtain ⟨c, -, h⟩ := Option.bind_eq_some_iff.mp h
    obtain ⟨d, -, h⟩ := Option.bind_eq_some_iff.mp h
    cases h
    rfl
  · cases h

theorem Code.length_lt (h : Code cs c rest) : rest.length < cs.length := by
  cases h with
  | pair hhigh _ hlow _ =>
    have hfirst := length_of_fourHex? hhigh
    have hsecond := length_of_fourHex? hlow
    rw [List.length_cons, List.length_cons] at hfirst
    omega
  | alone hcode _ =>
    have hlength := length_of_fourHex? hcode
    omega

/-- **What is behind a text** is less than the text. -/
theorem Inside.length_lt (h : Inside cs ds rest) : rest.length < cs.length := by
  induction h with
  | close rest => exact Nat.lt_succ_self _
  | plain _ _ _ _ ih => exact Nat.lt_succ_of_lt ih
  | letter _ _ ih => exact Nat.lt_succ_of_lt (Nat.lt_succ_of_lt ih)
  | code hcode _ ih =>
    have hless := hcode.length_lt
    simp only [List.length_cons]
    omega

/-- In a closed text, a code has four digits and something behind them. -/
theorem Inside.exists_fourHex? (h : Inside ('\\' :: 'u' :: digits) ds rest) :
    ∃ n behind, fourHex? digits = some (n, behind) ∧ behind ≠ [] := by
  cases h with
  | plain _ hbackslash _ _ => exact absurd rfl hbackslash
  | letter he _ => cases he
  | code hcode hin =>
    cases hcode with
    | pair hhigh _ _ _ => exact ⟨_, _, hhigh, List.cons_ne_nil _ _⟩
    | alone hcode _ => exact ⟨_, _, hcode, hin.ne_nil⟩

/-- **In a closed text**, what a reader makes of a code is what it stands for. -/
theorem codeEscape_ok_iff (h : Inside behind ds rest) :
    codeEscape ('u' :: cs) = .ok (c, behind) ↔ Code cs c behind := by
  unfold codeEscape
  rw [List.drop_one, List.tail_cons]
  constructor
  · intro hread
    split at hread
    · cases hread
    · next high r hhigh =>
      split_ifs at hread with hempty hlong
      · rw [Bool.and_eq_true, decide_eq_true_iff] at hlong
        split at hread
        · next digits =>
          split at hread
          · cases hread
          · next low rest' hlow =>
            split_ifs at hread with hsecond
            · obtain ⟨rfl, rfl⟩ := Prod.mk.inj (Except.ok.inj hread)
              exact .pair hhigh hlong.1 hlow hsecond
            · cases hread
              refine .alone hhigh fun _ digits' low' behind' heq hlow' => ?_
              cases heq
              rw [hlow] at hlow'
              cases hlow'
              exact Bool.eq_false_iff.mpr hsecond
        · next hother =>
          cases hread
          exact .alone hhigh fun _ digits low rest' heq _ => absurd heq (hother digits)
      · cases hread
        refine .alone hhigh fun hfirst digits low rest' heq hlow => ?_
        -- too little is left for a pair, so there is nothing behind the second code
        subst heq
        obtain ⟨n, more, hmore, hne⟩ := h.exists_fourHex?
        rw [hlow] at hmore
        cases hmore
        have hlength := length_of_fourHex? hlow
        have hpos := List.length_pos_iff.mpr hne
        rw [hfirst, Bool.true_and, decide_eq_true_iff, List.length_cons, List.length_cons] at hlong
        omega
  · intro hcode
    cases hcode with
    | pair hhigh hfirst hlow hsecond =>
      have hlength := length_of_fourHex? hlow
      have hpos := List.length_pos_iff.mpr h.ne_nil
      rw [hhigh]
      dsimp only
      rw [if_neg (by simp), if_pos]
      · split
        · next digits heq =>
          cases heq
          rw [hlow]
          dsimp only
          rw [if_pos hsecond]
          rfl
        · next hother => exact absurd rfl (hother _)
      · rw [hfirst, Bool.true_and, decide_eq_true_iff, List.length_cons, List.length_cons]
        omega
    | alone hcode halone =>
      rw [hcode]
      dsimp only
      rw [if_neg (by simpa using h.ne_nil)]
      split_ifs with hlong
      · rw [Bool.and_eq_true] at hlong
        split
        · next digits =>
          obtain ⟨low, more, hlow, -⟩ := h.exists_fourHex?
          rw [hlow]
          dsimp only
          rw [halone hlong.1 digits low more rfl hlow, if_neg Bool.false_ne_true]
        · rfl
      · rfl

/-- **A reader takes what is spelt**: what it takes is spelt. -/
theorem inside_of_text {opening : List Char} {fuel : Nat}
    (h : text opening fuel cs = .ok (ds, rest)) : Inside cs ds rest := by
  induction fuel generalizing cs ds with
  | zero => cases h
  | succ fuel ih =>
    have hon : ∀ {c : Char} {behind : List Char},
        text opening fuel behind >>= (fun r => .ok (c :: r.1, r.2)) = .ok (ds, rest) →
        ∃ tail, Inside behind tail rest ∧ ds = c :: tail := by
      intro c behind hread
      obtain ⟨⟨tail, rest'⟩, htail, hds⟩ := bind_ok_iff.mp hread
      cases hds
      exact ⟨tail, ih htail, rfl⟩
    unfold text at h
    split at h
    · next heq => cases heq
    · cases h
    · next c behind heq =>
      cases heq
      split_ifs at h with hquote hbackslash hcontrol
      · cases h
        rw [hquote]
        exact .close _
      · rw [hbackslash]
        split at h
        · cases h
        · next e behind =>
          split_ifs at h with hu
          · obtain ⟨⟨d, behind'⟩, hcode, hread⟩ := bind_ok_iff.mp h
            obtain ⟨tail, hin, rfl⟩ := hon hread
            rw [hu] at hcode ⊢
            exact .code ((codeEscape_ok_iff hin).mp hcode) hin
          · split at h
            · cases h
            · next d he =>
              obtain ⟨tail, hin, rfl⟩ := hon h
              exact .letter he hin
      · obtain ⟨tail, hin, rfl⟩ := hon h
        exact .plain hquote hbackslash hcontrol hin

/-- **A reader takes what is spelt**, given fuel for its characters. -/
theorem Inside.text_eq (h : Inside cs ds rest) (opening : List Char) {fuel : Nat}
    (hfuel : cs.length ≤ fuel) : text opening fuel cs = .ok (ds, rest) := by
  induction h generalizing fuel with
  | close rest =>
    obtain ⟨fuel, rfl⟩ := Nat.exists_eq_add_one_of_ne_zero (Nat.ne_zero_of_lt hfuel)
    rfl
  | plain hquote hbackslash hcontrol _ ih =>
    obtain ⟨fuel, rfl⟩ := Nat.exists_eq_add_one_of_ne_zero (Nat.ne_zero_of_lt hfuel)
    rw [text.eq_def]
    dsimp only
    rw [if_neg hquote, if_neg hbackslash, if_neg hcontrol, ih (Nat.le_of_succ_le_succ hfuel)]
    rfl
  | @letter e _ _ _ _ he _ ih =>
    obtain ⟨fuel, rfl⟩ := Nat.exists_eq_add_one_of_ne_zero (Nat.ne_zero_of_lt hfuel)
    have hu : e ≠ 'u' := by
      rintro rfl
      cases he
    rw [text_letter _ _ he hu, readOn, ih (Nat.le_of_succ_le (Nat.le_of_succ_le_succ hfuel))]
    rfl
  | code hcode hin ih =>
    obtain ⟨fuel, rfl⟩ := Nat.exists_eq_add_one_of_ne_zero (Nat.ne_zero_of_lt hfuel)
    have hless := hcode.length_lt
    simp only [List.length_cons] at hfuel
    rw [text.eq_def]
    dsimp only
    rw [if_neg (by decide), if_pos rfl, if_pos rfl, (codeEscape_ok_iff hin).mpr hcode]
    show (text opening fuel _ >>= _) = _
    rw [ih (by omega)]
    rfl

/-- **A text is taken off exactly as it is spelt**, whatever is behind it. -/
theorem quotedText_ok_iff {s : String} :
    quotedText ('"' :: cs) = .ok (s, rest) ↔ Inside cs s.toList rest := by
  unfold quotedText
  rw [List.drop_one, List.tail_cons, bind_ok_iff]
  constructor
  · rintro ⟨⟨ds, rest'⟩, htext, hs⟩
    cases hs
    rw [String.toList_ofList]
    exact inside_of_text htext
  · intro h
    refine ⟨(s.toList, rest), h.text_eq _ (by simp), ?_⟩
    show Except.ok (String.ofList s.toList, rest) = _
    rw [String.ofList_toList]

/-! ## Texts within the limits -/

/-- A code exceeds no limit. -/
theorem codeEscape_ne_excess (e : Excess) : codeEscape cs ≠ .error (.excess e) := by
  unfold codeEscape
  split
  · simp
  · split_ifs
    · simp
    · split
      · split
        · simp
        · split_ifs <;> simp
      · simp
    · simp

/-- The inside of a text exceeds no limit. -/
theorem text_ne_excess (opening : List Char) (fuel : Nat) (cs : List Char) (e : Excess) :
    text opening fuel cs ≠ .error (.excess e) := by
  suffices FailsOnly (fun stuck => stuck ≠ .excess e) (text opening fuel cs) from
    fun h => this _ h rfl
  induction fuel generalizing cs with
  | zero => exact failsOnly_error_iff.mpr (by simp)
  | succ fuel ih =>
    have hon : ∀ (c : Char) (behind : List Char), FailsOnly (fun stuck => stuck ≠ .excess e)
        (text opening fuel behind >>= fun r => .ok (c :: r.1, r.2)) :=
      fun _ behind => failsOnly_bind_iff.mpr ⟨ih behind, fun _ _ => failsOnly_ok _ _⟩
    unfold text
    split
    · next heq => cases heq
    · simp
    · next heq =>
      cases heq
      split_ifs
      · simp
      · split
        · simp
        · split_ifs
          · exact failsOnly_bind_iff.mpr ⟨fun stuck h heq => codeEscape_ne_excess e (heq ▸ h),
              fun r _ => hon r.1 r.2⟩
          · split
            · simp
            · exact hon _ _
      · simp
      · exact hon _ _

/-- **A text exceeds no limit**: if it is not taken off, it is misspelt. -/
theorem quotedText_ne_excess (e : Excess) : quotedText cs ≠ .error (.excess e) := by
  unfold quotedText
  cases htext : text cs cs.length (cs.drop 1) with
  | error stuck =>
    rintro h
    cases h
    exact text_ne_excess _ _ _ e htext
  | ok r => simp

end Reader

end CollectionTypes
