import CollectionTypes.Proofs.Value.Spelling

/-!
# Fuel enough

Whatever is read takes at least one character off the text (`Reader.leaves_number`,
`Reader.leaves_readers`). So the fuel of a reader only has to cover the characters that are
there twice, and any two fuels that do so read the same (`Reader.readers_congr`).
-/

namespace CollectionTypes

namespace Reader

/-- **Reading leaves less** than so many characters, if it succeeds. -/
def Leaves {α : Type} (n : Nat) (x : Except Stuck (α × List Char)) : Prop :=
  ∀ a rest, x = .ok (a, rest) → rest.length < n

section Leaves

variable {α β : Type} {m n : Nat}

theorem leaves_error (n : Nat) (e : Stuck) : Leaves n (.error e : Except Stuck (α × List Char)) :=
  fun _ _ h => nomatch h

@[simp] theorem leaves_ok_iff {a : α} {rest : List Char} :
    Leaves n (.ok (a, rest)) ↔ rest.length < n := by
  constructor
  · intro h
    exact h _ _ rfl
  · rintro h _ _ heq
    cases heq
    exact h

theorem Leaves.bind {x : Except Stuck (α × List Char)}
    {f : α × List Char → Except Stuck (β × List Char)} (hx : Leaves m x)
    (hf : ∀ a rest, rest.length < m → Leaves n (f (a, rest))) : Leaves n (x >>= f) := by
  cases x with
  | error e => exact leaves_error n e
  | ok r => exact hf r.1 r.2 (hx _ _ rfl)

/-- Reading on does the same if it does the same to whatever is left. -/
theorem Leaves.bind_congr {x : Except Stuck (α × List Char)}
    {f g : α × List Char → Except Stuck (β × List Char)} (hx : Leaves n x)
    (h : ∀ a rest, rest.length < n → f (a, rest) = g (a, rest)) : x >>= f = x >>= g := by
  cases x with
  | error e => rfl
  | ok r => exact h r.1 r.2 (hx _ _ rfl)

end Leaves

variable {cs rest : List Char}

theorem length_skip_le (cs : List Char) : (skip cs).length ≤ cs.length :=
  (List.dropWhile_suffix _).length_le

/-- What is left behind the first of the characters that are no blanks. -/
theorem length_lt_of_skip_eq {c : Char} (h : skip cs = c :: rest) : rest.length < cs.length := by
  have hle := length_skip_le cs
  rw [h] at hle
  exact hle

/-! ## Scalars -/

theorem leaves_quotedText (cs : List Char) : Leaves (cs.length + 1) (quotedText ('"' :: cs)) :=
  fun _ _ h => Nat.lt_succ_of_lt (quotedText_ok_iff.mp h).length_lt

/-- Nothing is lost between digits and what is left. -/
theorem append_digits (cs : List Char) : (digits cs).1 ++ (digits cs).2 = cs :=
  List.takeWhile_append_dropWhile

theorem append_wholePart (cs : List Char) : (wholePart cs).1 ++ (wholePart cs).2 = cs := by
  unfold wholePart
  split
  · rfl
  · exact append_digits _

theorem length_digits (cs : List Char) :
    (digits cs).1.length + (digits cs).2.length = cs.length := by
  rw [← List.length_append, append_digits]

theorem length_minus_le (cs : List Char) : (minus cs).2.length ≤ cs.length := by
  unfold minus
  split
  · exact Nat.le_succ _
  · exact Nat.le_refl _

theorem length_fraction_le (cs : List Char) : (fraction cs).2.length ≤ cs.length := by
  unfold fraction
  split
  · next rest =>
    split_ifs
    · exact Nat.le_refl _
    · have hlength := length_digits rest
      rw [List.length_cons]
      omega
  · exact Nat.le_refl _

theorem length_exponentSign_le (cs : List Char) : (exponentSign cs).2.length ≤ cs.length := by
  unfold exponentSign
  split
  · exact Nat.le_succ _
  · exact Nat.le_succ _
  · exact Nat.le_refl _

theorem length_exponent_le (cs : List Char) : (exponent cs).2.length ≤ cs.length := by
  unfold exponent
  split
  · next rest =>
    have hsign := length_exponentSign_le rest
    have hdigits := length_digits (exponentSign rest).2
    split_ifs
    · dsimp only
      split_ifs
      · exact Nat.le_refl _
      all_goals
        show (digits (exponentSign rest).2).2.length ≤ rest.length + 1
        omega
    · exact Nat.le_refl _
  · exact Nat.le_refl _

theorem leaves_number (cs : List Char) : Leaves cs.length (number cs) := by
  have hsign := length_minus_le cs
  have hwhole := congrArg List.length (append_wholePart (minus cs).2)
  rw [List.length_append] at hwhole
  have hfraction := length_fraction_le (wholePart (minus cs).2).2
  have hexponent := length_exponent_le (fraction (wholePart (minus cs).2).2).2
  unfold number
  dsimp only
  split_ifs with hempty
  · exact leaves_error _ _
  · exact leaves_error _ _
  all_goals
    have hpos : 0 < (wholePart (minus cs).2).1.length := by
      simpa [List.length_pos_iff] using hempty
    rw [leaves_ok_iff]
    omega

theorem length_lt_of_word? {v : Value} (h : word? cs = some (v, rest)) :
    rest.length < cs.length := by
  obtain ⟨w, hw, rfl, -⟩ := exists_word_of_word? h
  have hpos := (by decide : ∀ w ∈ words, 0 < w.1.length) w hw
  rw [List.length_append]
  exact Nat.lt_add_of_pos_left hpos

/-! ## Values -/

/-- **Every reader takes something off**, be it for a value, the items of a list or the
members of an object. -/
theorem leaves_readers (fuel : Nat) :
    (∀ depth cs, Leaves cs.length (value fuel depth cs))
    ∧ (∀ depth cs, Leaves cs.length (items fuel depth cs))
    ∧ (∀ depth cs, Leaves cs.length (members fuel depth cs)) := by
  induction fuel with
  | zero => exact ⟨fun _ _ => leaves_error _ _, fun _ _ => leaves_error _ _,
      fun _ _ => leaves_error _ _⟩
  | succ fuel ih =>
    obtain ⟨hvalue, hitems, hmembers⟩ := ih
    refine ⟨fun depth cs => ?_, fun depth cs => ?_, fun depth cs => ?_⟩
    · unfold value
      split
      · exact (leaves_quotedText _).bind fun _ _ h => leaves_ok_iff.mpr h
      · next inside =>
        split_ifs
        · exact leaves_error _ _
        · split
          · next heq => exact leaves_ok_iff.mpr (Nat.lt_succ_of_lt (length_lt_of_skip_eq heq))
          · exact (hitems _ _).bind fun _ _ h => leaves_ok_iff.mpr
              (Nat.lt_succ_of_lt (Nat.lt_of_lt_of_le h (length_skip_le inside)))
      · next inside =>
        split_ifs
        · exact leaves_error _ _
        · split
          · next heq => exact leaves_ok_iff.mpr (Nat.lt_succ_of_lt (length_lt_of_skip_eq heq))
          · exact (hmembers _ _).bind fun _ _ h => leaves_ok_iff.mpr
              (Nat.lt_succ_of_lt (Nat.lt_of_lt_of_le h (length_skip_le inside)))
      · split
        · next hword => exact leaves_ok_iff.mpr (length_lt_of_word? hword)
        · exact leaves_number _
    · unfold items
      refine (hvalue depth cs).bind fun v afterValue hlt => ?_
      dsimp only
      split
      · next heq => exact leaves_ok_iff.mpr (Nat.lt_trans (length_lt_of_skip_eq heq) hlt)
      · next rest heq =>
        have hrest := length_lt_of_skip_eq heq
        have hskip := length_skip_le rest
        exact (hitems _ _).bind fun _ _ h => leaves_ok_iff.mpr (Nat.lt_of_lt_of_le h (by omega))
      · exact leaves_error _ _
    · unfold members
      split
      · refine (leaves_quotedText _).bind fun name afterName hname => ?_
        dsimp only
        split
        · next afterColon hcolon =>
          have hafter := length_lt_of_skip_eq hcolon
          have hskip := length_skip_le afterColon
          refine (hvalue _ _).bind fun v afterValue hlt => ?_
          dsimp only
          split
          · next heq =>
            have hrest := length_lt_of_skip_eq heq
            rw [List.length_cons]
            exact leaves_ok_iff.mpr (by omega)
          · next rest heq =>
            have hrest := length_lt_of_skip_eq heq
            have hskip' := length_skip_le rest
            rw [List.length_cons]
            exact (hmembers _ _).bind fun _ _ h => leaves_ok_iff.mpr (Nat.lt_of_lt_of_le h (by omega))
          · exact leaves_error _ _
        · exact leaves_error _ _
      · exact leaves_error _ _

theorem leaves_value (fuel depth : Nat) (cs : List Char) :
    Leaves cs.length (value fuel depth cs) :=
  (leaves_readers fuel).1 depth cs

/-- **Two fuels that cover the text twice** read the same, be it a value, the items of a list
or the members of an object. -/
theorem readers_congr (m : Nat) :
    (∀ {n : Nat} (depth : Nat) {cs : List Char}, 2 * cs.length + 1 ≤ m → 2 * cs.length + 1 ≤ n →
      value m depth cs = value n depth cs)
    ∧ (∀ {n : Nat} (depth : Nat) {cs : List Char}, 2 * cs.length + 2 ≤ m → 2 * cs.length + 2 ≤ n →
      items m depth cs = items n depth cs)
    ∧ (∀ {n : Nat} (depth : Nat) {cs : List Char}, 2 * cs.length + 2 ≤ m → 2 * cs.length + 2 ≤ n →
      members m depth cs = members n depth cs) := by
  induction m with
  | zero => exact ⟨fun _ _ h => absurd h (Nat.not_succ_le_zero _),
      fun _ _ h => absurd h (Nat.not_succ_le_zero _),
      fun _ _ h => absurd h (Nat.not_succ_le_zero _)⟩
  | succ m ih =>
    obtain ⟨hvalue, hitems, hmembers⟩ := ih
    refine ⟨fun {n} depth cs hm hn => ?_, fun {n} depth cs hm hn => ?_,
      fun {n} depth cs hm hn => ?_⟩
    all_goals obtain ⟨n, rfl⟩ := Nat.exists_eq_add_one_of_ne_zero (Nat.ne_zero_of_lt hn)
    · rw [value.eq_def, value.eq_def (n + 1)]
      dsimp only
      split
      · rfl
      · next inside =>
        have hskip := length_skip_le inside
        rw [List.length_cons] at hm hn
        split_ifs
        · rfl
        · split
          · rfl
          · rw [hitems (depth - 1) (n := n) (by omega) (by omega)]
      · next inside =>
        have hskip := length_skip_le inside
        rw [List.length_cons] at hm hn
        split_ifs
        · rfl
        · split
          · rfl
          · rw [hmembers (depth - 1) (n := n) (by omega) (by omega)]
      · rfl
    · rw [items.eq_def, items.eq_def (n + 1)]
      dsimp only
      rw [hvalue depth (n := n) (by omega) (by omega)]
      refine (leaves_value n depth cs).bind_congr fun v afterValue hlt => ?_
      dsimp only
      split
      · rfl
      · next rest heq =>
        have hrest := length_lt_of_skip_eq heq
        have hskip := length_skip_le rest
        rw [hitems depth (n := n) (by omega) (by omega)]
      · rfl
    · rw [members.eq_def, members.eq_def (n + 1)]
      dsimp only
      split
      · next inside =>
        rw [List.length_cons] at hm hn
        refine (leaves_quotedText inside).bind_congr fun name afterName hname => ?_
        dsimp only
        split
        · next afterColon hcolon =>
          have hafter := length_lt_of_skip_eq hcolon
          have hskip := length_skip_le afterColon
          rw [hvalue depth (n := n) (by omega) (by omega)]
          refine (leaves_value n depth _).bind_congr fun v afterValue hlt => ?_
          dsimp only
          split
          · rfl
          · next rest heq =>
            have hrest := length_lt_of_skip_eq heq
            have hskip' := length_skip_le rest
            rw [hmembers depth (n := n) (by omega) (by omega)]
          · rfl
        · rfl
      · rfl

/-- **A value is read the same** with any two fuels that cover the text twice. -/
theorem value_congr (depth : Nat) {m n : Nat} (hm : 2 * cs.length + 1 ≤ m)
    (hn : 2 * cs.length + 1 ≤ n) : value m depth cs = value n depth cs :=
  (readers_congr m).1 depth hm hn

end Reader

end CollectionTypes
