import CollectionTypes.Proofs.Value.LineEnds
import Mathlib.Data.List.TakeWhile

/-!
# A text inside of another

A value that fills a text is read off the front of a longer one, if what follows closes an
object (`Reader.parallel_append`). Inside of an object there is less room for lists and objects
inside each other, but if there is enough the value is the same
(`Reader.shallower_readers`). So the one member of an object is the value that its text holds
(`Value.readChars_wrapped`).
-/

namespace CollectionTypes

open Outcome

namespace Reader

variable {cs ds tail : List Char}

/-! ## Longer texts -/

/-- Blanks and what closes an object behind them. -/
def Closes (tail ds : List Char) : Prop :=
  ∃ bs : List Char, (∀ c ∈ bs, isBlank c = true) ∧ ds = bs ++ '\x7d' :: tail

theorem Closes.skip_append (h : Closes tail ds) (hcs : skip cs = []) :
    skip (cs ++ ds) = '\x7d' :: tail := by
  obtain ⟨bs, hbs, rfl⟩ := h
  rw [skip_of_blanks (List.dropWhile_eq_nil_iff.mp hcs), skip_of_blanks hbs]
  rfl

/-- **A text beside a longer one**, which goes on with blanks and what closes an object. -/
theorem parallel_append (tail : List Char) :
    Parallel fun cs ds => ∃ more, Closes tail more ∧ ds = cs ++ more where
  forth := by
    rintro c cs _ ⟨more, hmore, rfl⟩ -
    exact ⟨_, rfl, more, hmore, rfl⟩
  back {c cs ds} := by
    rintro ⟨more, ⟨bs, hbs, rfl⟩, h⟩ hc
    cases cs with
    | cons c' cs => exact ⟨cs, by rw [(List.cons.inj h).1]⟩
    | nil =>
      cases bs with
      | nil => exact absurd (List.cons.inj h).1 hc.2
      | cons b bs =>
        rw [(List.cons.inj h).1] at hc
        exact absurd (hc.1.symm.trans (hbs b List.mem_cons_self)) Bool.false_ne_true
  blanks {cs ds} := by
    rintro ⟨more, hmore, rfl⟩
    induction cs with
    | nil => exact ⟨'\x7d' :: tail, ⟨[], fun _ hc => absurd hc List.not_mem_nil, rfl⟩,
        (hmore.skip_append rfl : skip ([] ++ more) = _)⟩
    | cons c cs ih =>
      by_cases hc : isBlank c = true
      · have hskip : ∀ ds, skip (c :: ds) = skip ds := fun _ => List.dropWhile_cons_of_pos hc
        rw [List.cons_append, hskip, hskip]
        exact ih
      · rw [List.cons_append, skip_of_not_isBlank (Bool.eq_false_iff.mpr hc),
          skip_of_not_isBlank (Bool.eq_false_iff.mpr hc)]
        exact ⟨more, hmore, rfl⟩

/-! ## Less room -/

/-- **Reading with less room**: it comes to the same, or there is not enough room. -/
def Shallower {α : Type} (x y : Except Stuck (α × List Char)) : Prop :=
  y = x ∨ ∃ isList, y = .error (.excess (.depth isList))

theorem shallower_refl {α : Type} (x : Except Stuck (α × List Char)) : Shallower x x :=
  .inl rfl

theorem Shallower.bind {α β : Type} {x y : Except Stuck (α × List Char)}
    {f g : α × List Char → Except Stuck (β × List Char)} (h : Shallower x y)
    (hfg : ∀ r, Shallower (f r) (g r)) : Shallower (x >>= f) (y >>= g) := by
  rcases h with rfl | ⟨isList, rfl⟩
  · cases y with
    | error stuck => exact shallower_refl _
    | ok r => exact hfg r
  · exact .inr ⟨isList, rfl⟩

/-- **Less room changes nothing** if it is enough, be it for a value, the items of a list or
the members of an object. -/
theorem shallower_readers (fuel : Nat) :
    (∀ {depth depth'} (cs), depth' ≤ depth →
      Shallower (value fuel depth cs) (value fuel depth' cs))
    ∧ (∀ {depth depth'} (cs), depth' ≤ depth →
      Shallower (items fuel depth cs) (items fuel depth' cs))
    ∧ (∀ {depth depth'} (cs), depth' ≤ depth →
      Shallower (members fuel depth cs) (members fuel depth' cs)) := by
  induction fuel with
  | zero => exact ⟨fun _ _ => shallower_refl _, fun _ _ => shallower_refl _,
      fun _ _ => shallower_refl _⟩
  | succ fuel ih =>
    obtain ⟨hvalue, hitems, hmembers⟩ := ih
    refine ⟨fun {depth depth'} cs hle => ?_, fun {depth depth'} cs hle => ?_,
      fun {depth depth'} cs hle => ?_⟩
    · rw [value.eq_def, value.eq_def (fuel + 1) depth']
      dsimp only
      split
      · exact shallower_refl _
      · by_cases hzero : depth' = 0
        · rw [if_pos hzero]
          exact .inr ⟨true, rfl⟩
        · rw [if_neg hzero, if_neg (by omega)]
          split
          · exact shallower_refl _
          · exact (hitems _ (Nat.sub_le_sub_right hle 1)).bind fun _ => shallower_refl _
      · by_cases hzero : depth' = 0
        · rw [if_pos hzero]
          exact .inr ⟨false, rfl⟩
        · rw [if_neg hzero, if_neg (by omega)]
          split
          · exact shallower_refl _
          · exact (hmembers _ (Nat.sub_le_sub_right hle 1)).bind fun _ => shallower_refl _
      · exact shallower_refl _
    · rw [items.eq_def, items.eq_def (fuel + 1) depth']
      refine (hvalue _ hle).bind fun r => ?_
      dsimp only
      split
      · exact shallower_refl _
      · exact (hitems _ hle).bind fun _ => shallower_refl _
      · exact shallower_refl _
    · rw [members.eq_def, members.eq_def (fuel + 1) depth']
      dsimp only
      split
      · refine (shallower_refl _).bind fun r => ?_
        split
        · refine (hvalue _ hle).bind fun r => ?_
          split
          · exact shallower_refl _
          · exact (hmembers _ hle).bind fun _ => shallower_refl _
          · exact shallower_refl _
        · exact shallower_refl _
      · exact shallower_refl _

/-- **What fills a text** is read inside of an object, if there is room. -/
theorem value_inside {v : Value} (hcs : whole cs = .ok v) {fuel depth : Nat}
    (hfuel : 2 * cs.length + 1 ≤ fuel) (hdepth : depth ≤ maxDepth) (hds : Closes tail ds) :
    (∃ rest, value fuel depth (skip (cs ++ ds)) = .ok (v, rest) ∧ skip rest = '\x7d' :: tail)
      ∨ ∃ isList, value fuel depth (skip (cs ++ ds)) = .error (.excess (.depth isList)) := by
  have hparallel := parallel_append tail
  obtain ⟨-, rest, hvalue, hrest⟩ := (whole_ok_iff hfuel).mp hcs
  obtain ⟨_, hlonger, more, hmore, rfl⟩ :=
    ((hparallel.readers fuel).1 maxDepth (hparallel.blanks ⟨ds, hds, rfl⟩)).ok hvalue
  rcases (shallower_readers fuel).1 (skip (cs ++ ds)) hdepth with hless | hless
  · exact .inl ⟨_, hless.trans hlonger, hmore.skip_append hrest⟩
  · exact .inr hless

/-! ## One member -/

section Member

variable {fuel depth : Nat} (name : String) {inside behind rest : List Char} {v : Value}

/-- An object that begins with a name is what its members are. -/
theorem value_of_name (hinside : ∀ c ∈ inside, isBlank c = true) :
    value (fuel + 1) (depth + 1) ('\x7b' :: (inside ++ (Writer.text name ++ tail)))
      = members fuel depth (Writer.text name ++ tail) >>= fun r =>
        .ok (.object (settle r.1), r.2) := by
  rw [value, if_neg (Nat.succ_ne_zero depth), skip_of_blanks hinside, skip_text, Nat.add_sub_cancel]
  rfl

/-- **An object with one member** is read if the value of the member is. -/
theorem value_of_member (hinside : ∀ c ∈ inside, isBlank c = true)
    (hbehind : ∀ c ∈ behind, isBlank c = true) (hv : value fuel depth (skip cs) = .ok (v, rest))
    (hrest : skip rest = '\x7d' :: tail) :
    value (fuel + 2) (depth + 1)
        ('\x7b' :: (inside ++ (Writer.text name ++ (behind ++ ':' :: cs))))
      = .ok (.object [(name, v)], tail) := by
  rw [value_of_name name hinside, members_of_name hbehind, hv]
  rw [ok_bind]
  dsimp only
  rw [hrest]
  rfl

/-- What is wrong with the value of a member is wrong with the object. -/
theorem value_of_member_error (hinside : ∀ c ∈ inside, isBlank c = true)
    (hbehind : ∀ c ∈ behind, isBlank c = true) {stuck : Stuck}
    (hv : value fuel depth (skip cs) = .error stuck) :
    value (fuel + 2) (depth + 1)
        ('\x7b' :: (inside ++ (Writer.text name ++ (behind ++ ':' :: cs)))) = .error stuck := by
  rw [value_of_name name hinside, members_of_name hbehind, hv]
  rfl

end Member

end Reader

/-! ## Wrapped texts -/

/-- **A text wrapped in an object**, as what is under one name, blanks apart. -/
def Wrapped (name : String) (cs ds : List Char) : Prop :=
  ∃ before inside behind left right after : List Char,
    (∀ c ∈ before ++ inside ++ behind ++ left ++ right ++ after, Reader.isBlank c = true)
      ∧ ds = before ++ '\x7b' :: (inside ++ (Writer.text name
          ++ (behind ++ ':' :: (left ++ (cs ++ (right ++ '\x7d' :: after))))))

/-- A wrapped text has no mark of the order of bytes, since it begins with a blank or a
brace. -/
theorem Wrapped.head?_ne {name : String} {cs ds : List Char} (h : Wrapped name cs ds) :
    ds.head? ≠ some '\uFEFF' := by
  obtain ⟨before, inside, behind, left, right, after, hblank, rfl⟩ := h
  cases before with
  | nil => exact fun heq => by cases heq
  | cons c before =>
    intro heq
    obtain rfl := Option.some.inj heq
    exact absurd (hblank '\uFEFF' (by simp)) (by decide)

/-- **A wrapped text holds the object** with the one member, unless lists and objects are too
deep inside each other in it. -/
theorem Value.readChars_wrapped {name : String} {cs ds : List Char} {v : Value}
    (h : Wrapped name cs ds) (hcs : readChars cs = .ok v) :
    readChars ds = .ok (.object [(name, v)])
      ∨ ∃ isList, readChars ds = .error (.excess (.depth isList)) := by
  have hmark : ∀ tail, ds ≠ '\uFEFF' :: tail := by
    rintro tail rfl
    exact h.head?_ne rfl
  obtain ⟨before, inside, behind, left, right, after, hblank, hds⟩ := h
  simp only [List.forall_mem_append, and_assoc] at hblank
  obtain ⟨hbefore, hinside, hbehind, hleft, hright, hafter⟩ := hblank
  have hlength : cs.length + 1 ≤ ds.length := by
    simp only [hds, List.length_append, List.length_cons]
    omega
  have hskip : Reader.skip ds = '\x7b' :: (inside ++ (Writer.text name
      ++ (behind ++ ':' :: (left ++ (cs ++ (right ++ '\x7d' :: after)))))) := by
    rw [hds, Reader.skip_of_blanks hbefore]
    rfl
  have hfuel : 2 * ds.length + 1 ≤ 2 * ds.length + 2 := Nat.le_succ _
  rw [readChars_ok_iff] at hcs ⊢
  simp only [readChars_excess_iff]
  rcases Reader.value_inside hcs (by omega : 2 * cs.length + 1 ≤ 2 * ds.length)
      (Nat.sub_le Reader.maxDepth 1)
      ⟨right, hright, rfl⟩ with ⟨rest, hvalue, hrest⟩ | ⟨isList, hvalue⟩
  all_goals rw [← Reader.skip_of_blanks hleft] at hvalue
  · have hobject := Reader.value_of_member name hinside hbehind hvalue hrest
    refine .inl ((Reader.whole_ok_iff hfuel).mpr ⟨hmark, after, hskip ▸ hobject, ?_⟩)
    have hblanks := Reader.skip_of_blanks hafter []
    rwa [List.append_nil] at hblanks
  · have hobject := Reader.value_of_member_error name hinside hbehind hvalue
    exact .inr ⟨isList, (Reader.whole_excess_iff hfuel).mpr ⟨hmark, hskip ▸ hobject⟩⟩

end CollectionTypes
