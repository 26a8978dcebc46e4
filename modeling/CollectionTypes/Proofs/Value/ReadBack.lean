import CollectionTypes.Proofs.Entries
import CollectionTypes.Proofs.Value.Tokens

/-!
# Values that are read back

Reading what was written gives the value again (`Value.readChars_write`), if writing keeps
it (`Value.Kept`): its whole numbers have no more digits than can be read, no object
repeats a name, and lists and objects are nested no deeper than a reader goes. Whatever
stands in its texts and names comes back, since it is escaped where it has to be.
Numbers with a fraction are left out.

Every part of a value *comes back* (`Reader.ComesBack`) wherever it stands: off the front of
what was written for it, up to the comma or the new line behind it. Of a list and of an object
this follows from the same of all that is in it.
-/

namespace CollectionTypes

/-- **Values that writing keeps**, lists and objects being nested at most so deep. -/
inductive Value.Kept : Nat → Value → Prop
  | null {depth : Nat} : Kept depth .null
  | bool {depth : Nat} (b : Bool) : Kept depth (.bool b)
  | int {depth : Nat} {n : Int} (h : (Value.int n).isWritable = true) : Kept depth (.int n)
  | text {depth : Nat} (s : String) : Kept depth (.text s)
  | list {depth : Nat} {vs : List Value} (h : ∀ v ∈ vs, Kept depth v) : Kept (depth + 1) (.list vs)
  | object {depth : Nat} {ms : List (String × Value)} (hnames : (ms.map Prod.fst).Nodup)
      (h : ∀ m ∈ ms, Kept depth m.2) : Kept (depth + 1) (.object ms)

namespace Reader

/-! ## The front of a value -/

/-- **What a value begins with**: no blank, no bracket that closes a list, and no mark of
the order of bytes. -/
def Begins (cs : List Char) : Prop :=
  ∃ c tail, cs = c :: tail ∧ isBlank c = false ∧ c ≠ ']' ∧ c ≠ '\uFEFF'

/-- **A value comes back** off the front of what was written for it. -/
structure ComesBack (depth : Nat) (v : Value) : Prop where
  begins : ∀ level, Begins (Writer.value level v)
  read : ∀ (level fuel : Nat) (rest : List Char), (Writer.value level v).length ≤ fuel →
    Ends rest → value fuel depth (Writer.value level v ++ rest) = .ok (v, rest)

variable {depth : Nat} {rest : List Char}

variable {level fuel : Nat} {v : Value}

theorem Begins.skip_append {cs : List Char} (h : Begins cs) (rest : List Char) :
    skip (cs ++ rest) = cs ++ rest := by
  obtain ⟨c, tail, rfl, hc, -⟩ := h
  exact skip_of_not_isBlank hc _

/-- A blank in front of a value does not matter. -/
theorem ComesBack.read_blank (h : ComesBack depth v)
    (hfuel : (Writer.value level v).length ≤ fuel) (hrest : Ends rest) :
    value fuel depth (skip (' ' :: (Writer.value level v ++ rest))) = .ok (v, rest) := by
  have hskip : skip (' ' :: (Writer.value level v ++ rest)) = Writer.value level v ++ rest :=
    (List.dropWhile_cons_of_pos rfl).trans ((h.begins level).skip_append rest)
  rw [hskip]
  exact h.read level fuel rest hfuel hrest

/-! ### Scalars -/

theorem comesBack_null : ComesBack depth .null where
  begins _ := ⟨'n', _, rfl, by decide, by decide, by decide⟩
  read level fuel rest hfuel _ := by
    obtain ⟨fuel, rfl⟩ := Nat.exists_eq_add_one_of_ne_zero (Nat.ne_zero_of_lt hfuel)
    rfl

theorem comesBack_bool (b : Bool) : ComesBack depth (.bool b) where
  begins _ := by
    cases b with
    | true => exact ⟨'t', _, rfl, by decide, by decide, by decide⟩
    | false => exact ⟨'f', _, rfl, by decide, by decide, by decide⟩
  read level fuel rest hfuel _ := by
    obtain ⟨fuel, rfl⟩ := Nat.exists_eq_add_one_of_ne_zero
      (show fuel ≠ 0 by cases b <;> exact Nat.ne_zero_of_lt hfuel)
    cases b <;> rfl

theorem comesBack_text (s : String) : ComesBack depth (.text s) where
  begins _ := ⟨'"', _, rfl, by decide, by decide, by decide⟩
  read level fuel rest hfuel _ := by
    obtain ⟨fuel, rfl⟩ := Nat.exists_eq_add_one_of_ne_zero (Nat.ne_zero_of_lt hfuel)
    show (quotedText (Writer.text s ++ rest) >>= _) = _
    rw [quotedText_written]
    rfl

/-- What a whole number begins with: a digit, or a sign and then a digit. -/
theorem exists_toString_eq (n : Int) : ∃ sign d ds, (toString n).toList = sign ++ d :: ds
    ∧ (sign = [] ∨ sign = ['-']) ∧ d.isDigit = true := by
  obtain ⟨d, ds, hds, hd⟩ := exists_toDigits_eq_cons n.natAbs
  refine ⟨if n < 0 then ['-'] else [], d, ds, ?_, ?_, hd⟩
  · rw [toList_toString_int, hds]
  · split
    · exact .inr rfl
    · exact .inl rfl

theorem ne_of_isDigit {c d : Char} (hd : d.isDigit = true) (hc : c.isDigit = false) : d ≠ c := by
  rintro rfl
  exact Bool.false_ne_true (hc.symm.trans hd)

/-- No word begins as a whole number does, since no word has a digit in it. -/
theorem word?_eq_none {sign tail : List Char} {d : Char} (hsign : sign.length ≤ 1)
    (hd : d.isDigit = true) : word? (sign ++ d :: tail) = none := by
  unfold word?
  refine List.findSome?_eq_none_iff.mpr fun w hw => if_neg fun hprefix => ?_
  have hword : 2 ≤ w.1.length ∧ (w.1.all fun c => !c.isDigit) = true :=
    (by decide : ∀ w ∈ words, 2 ≤ w.1.length ∧ (w.1.all fun c => !c.isDigit) = true) w hw
  have hnumber : sign ++ [d] <+: sign ++ d :: tail := ⟨tail, by simp⟩
  have hstart : sign ++ [d] <+: w.1 :=
    List.prefix_of_prefix_length_le hnumber (List.isPrefixOf_iff_prefix.mp hprefix)
      (by rw [List.length_append, List.length_singleton]; omega)
  have hmem : d ∈ w.1 := hstart.subset (List.mem_append_right _ List.mem_cons_self)
  have hother := List.all_eq_true.mp hword.2 d hmem
  rw [hd] at hother
  cases hother

/-- What begins as a whole number does is read as a number. -/
theorem value_eq_number {sign tail : List Char} {d : Char} (hsign : sign = [] ∨ sign = ['-'])
    (hd : d.isDigit = true) (fuel depth : Nat) :
    value (fuel + 1) depth (sign ++ d :: tail) = number (sign ++ d :: tail) := by
  have hshort : sign.length ≤ 1 := by
    rcases hsign with rfl | rfl <;> decide
  have hfront : ∀ c, c.isDigit = false → c ≠ '-' → ∀ as, sign ++ d :: tail = c :: as → False := by
    intro c hc hminus as h
    rcases hsign with rfl | rfl
    · exact ne_of_isDigit hd hc (List.cons.inj h).1
    · exact hminus (List.cons.inj h).1.symm
  rw [value]
  · rw [word?_eq_none hshort hd]
  · exact hfront '"' rfl (by decide)
  · exact hfront '[' rfl (by decide)
  · exact hfront '\x7b' rfl (by decide)

theorem comesBack_int {n : Int} (hn : (Value.int n).isWritable = true) :
    ComesBack depth (.int n) where
  begins _ := by
    obtain ⟨sign, d, ds, hchars, hsign, hd⟩ := exists_toString_eq n
    rcases hsign with rfl | rfl
    · have hne : ∀ c, c.isDigit = false → (d == c) = false := fun c hc =>
        beq_false_of_ne (ne_of_isDigit hd hc)
      have hblank : isBlank d = false := by
        rw [isBlank, hne ' ' rfl, hne '\t' rfl, hne '\n' rfl, hne '\r' rfl]
        rfl
      exact ⟨d, ds, hchars, hblank, ne_of_isDigit hd rfl, ne_of_isDigit hd rfl⟩
    · exact ⟨'-', d :: ds, hchars, by decide, by decide, by decide⟩
  read level fuel rest hfuel hrest := by
    obtain ⟨sign, d, ds, hchars, hsign, hd⟩ := exists_toString_eq n
    have hnumber := number_written hn hrest
    change (toString n).toList.length ≤ fuel at hfuel
    show value fuel depth ((toString n).toList ++ rest) = _
    rw [hchars] at hfuel hnumber ⊢
    rw [List.length_append, List.length_cons] at hfuel
    obtain ⟨fuel, rfl⟩ := Nat.exists_eq_add_one_of_ne_zero (show fuel ≠ 0 by omega)
    rw [List.append_assoc, List.cons_append] at hnumber ⊢
    rw [value_eq_number hsign hd, hnumber]

/-! ### Lists and objects -/

section Inside

variable {below : Nat} {cs behind tail : List Char} {name : String}

/-- Reading on behind an item. -/
theorem items_of_value (hv : value fuel depth cs = .ok (v, behind)) :
    items (fuel + 1) depth cs = match skip behind with
      | ']' :: rest => .ok ([v], rest)
      | ',' :: rest => do
        let (vs, rest') ← items fuel depth (skip rest)
        return (v :: vs, rest')
      | rest => .error (.misspelt .expectingComma rest) := by
  rw [items, hv]
  rfl

/-- A member is its name and then its value, with blanks around the colon. -/
theorem members_of_name {blanks : List Char} (hblanks : ∀ c ∈ blanks, isBlank c = true) :
    members (fuel + 1) depth (Writer.text name ++ (blanks ++ ':' :: tail))
      = value fuel depth (skip tail) >>= fun r => match skip r.2 with
        | '\x7d' :: rest => .ok ([(name, r.1)], rest)
        | ',' :: rest => do
          let (ms, rest') ← members fuel depth (skip rest)
          return ((name, r.1) :: ms, rest')
        | rest => .error (.misspelt .expectingComma rest) := by
  have hname := quotedText_written name (blanks ++ ':' :: tail)
  have hcolon : skip (blanks ++ ':' :: tail) = ':' :: tail := by
    rw [skip_of_blanks hblanks]
    rfl
  obtain ⟨inside, hinside⟩ : ∃ inside, Writer.text name ++ (blanks ++ ':' :: tail) = '"' :: inside :=
    ⟨_, rfl⟩
  rw [hinside] at hname ⊢
  rw [members, hname, Outcome.ok_bind]
  dsimp only
  rw [hcolon]
  rfl

/-- Reading on behind a member. -/
theorem members_of_value (hv : value fuel depth (skip tail) = .ok (v, behind)) :
    members (fuel + 1) depth (Writer.text name ++ ':' :: tail) = match skip behind with
      | '\x7d' :: rest => .ok ([(name, v)], rest)
      | ',' :: rest => do
        let (ms, rest') ← members fuel depth (skip rest)
        return ((name, v) :: ms, rest')
      | rest => .error (.misspelt .expectingComma rest) := by
  have hname : members (fuel + 1) depth (Writer.text name ++ ([] ++ ':' :: tail)) = _ :=
    members_of_name fun _ hc => absurd hc List.not_mem_nil
  rw [List.nil_append, hv] at hname
  exact hname

theorem skip_text (name : String) (rest : List Char) :
    skip (Writer.text name ++ rest) = Writer.text name ++ rest :=
  skip_of_not_isBlank (by decide) _

theorem ends_newLine (below : Nat) (rest : List Char) : Ends (Writer.newLine below ++ rest) :=
  ends_cons (.inr rfl) _

/-- **The items of a list come back** if each of them does. -/
theorem items_written {vs : List Value} (h : ∀ w ∈ v :: vs, ComesBack depth w)
    (hfuel : (Writer.value level v ++ Writer.items level vs).length < fuel) :
    items fuel depth (Writer.value level v ++ (Writer.items level vs
        ++ (Writer.newLine below ++ ']' :: rest))) = .ok (v :: vs, rest) := by
  induction vs generalizing v fuel with
  | nil =>
    obtain ⟨fuel, rfl⟩ := Nat.exists_eq_add_one_of_ne_zero (Nat.ne_zero_of_lt hfuel)
    rw [List.length_append] at hfuel
    have hv := (h v List.mem_cons_self).read level fuel _ (by omega)
      (ends_newLine below (']' :: rest))
    rw [Writer.items, List.nil_append, items_of_value hv, skip_newLine]
    rfl
  | cons w ws ih =>
    obtain ⟨fuel, rfl⟩ := Nat.exists_eq_add_one_of_ne_zero (Nat.ne_zero_of_lt hfuel)
    rw [List.forall_mem_cons] at h
    have hmore : Writer.items level (w :: ws) ++ (Writer.newLine below ++ ']' :: rest)
        = ',' :: (Writer.newLine level ++ (Writer.value level w ++ (Writer.items level ws
          ++ (Writer.newLine below ++ ']' :: rest)))) := by
      simp only [Writer.items, List.cons_append, List.append_assoc]
    simp only [Writer.items, List.length_append, List.length_cons] at hfuel
    rw [hmore, items_of_value (h.1.read level fuel _ (by omega) (ends_cons (.inl rfl) _))]
    show (items fuel depth (skip (Writer.newLine level ++ _)) >>= _) = _
    rw [skip_newLine, ((h.2 w List.mem_cons_self).begins level).skip_append,
      ih h.2 (by rw [List.length_append]; omega)]
    rfl

/-- **The members of an object come back** if their values do. -/
theorem members_written {ms : List (String × Value)} (h : ∀ m ∈ (name, v) :: ms, ComesBack depth m.2)
    (hfuel : (Writer.value level v ++ Writer.members level ms).length < fuel) :
    members fuel depth (Writer.text name ++ (':' :: ' ' :: (Writer.value level v
        ++ (Writer.members level ms ++ (Writer.newLine below ++ '\x7d' :: rest)))))
      = .ok ((name, v) :: ms, rest) := by
  induction ms generalizing name v fuel with
  | nil =>
    obtain ⟨fuel, rfl⟩ := Nat.exists_eq_add_one_of_ne_zero (Nat.ne_zero_of_lt hfuel)
    rw [List.length_append] at hfuel
    have hv : ComesBack depth v := h _ List.mem_cons_self
    rw [Writer.members, List.nil_append,
      members_of_value (hv.read_blank (by omega) (ends_newLine below _)), skip_newLine]
    rfl
  | cons m ms ih =>
    obtain ⟨fuel, rfl⟩ := Nat.exists_eq_add_one_of_ne_zero (Nat.ne_zero_of_lt hfuel)
    obtain ⟨name', w⟩ := m
    rw [List.forall_mem_cons] at h
    have hv : ComesBack depth v := h.1
    have hmore : Writer.members level ((name', w) :: ms)
          ++ (Writer.newLine below ++ '\x7d' :: rest)
        = ',' :: (Writer.newLine level ++ (Writer.text name' ++ (':' :: ' ' ::
          (Writer.value level w ++ (Writer.members level ms
            ++ (Writer.newLine below ++ '\x7d' :: rest)))))) := by
      simp only [Writer.members, List.cons_append, List.append_assoc, List.nil_append]
    simp only [Writer.members, List.length_append, List.length_cons] at hfuel
    rw [hmore, members_of_value (hv.read_blank (by omega) (ends_cons (.inl rfl) _))]
    show (members fuel depth (skip (Writer.newLine level ++ _)) >>= _) = _
    rw [skip_newLine, skip_text, ih h.2 (by rw [List.length_append]; omega)]
    rfl

/-- **A list comes back** if its items do. -/
theorem comesBack_list {vs : List Value} (h : ∀ v ∈ vs, ComesBack depth v) :
    ComesBack (depth + 1) (.list vs) where
  begins level := by
    cases vs <;> exact ⟨'[', _, rfl, by decide, by decide, by decide⟩
  read level fuel rest hfuel hrest := by
    cases vs with
    | nil =>
      obtain ⟨fuel, rfl⟩ := Nat.exists_eq_add_one_of_ne_zero (Nat.ne_zero_of_lt hfuel)
      rfl
    | cons v vs =>
      have hwritten : Writer.value level (.list (v :: vs)) ++ rest
          = '[' :: (Writer.newLine (level + 1) ++ (Writer.value (level + 1) v
            ++ (Writer.items (level + 1) vs ++ (Writer.newLine level ++ ']' :: rest)))) := by
        simp only [Writer.value, List.cons_append, List.append_assoc, List.nil_append]
      simp only [Writer.value, List.length_append, List.length_cons] at hfuel
      obtain ⟨fuel, rfl⟩ := Nat.exists_eq_add_one_of_ne_zero (Nat.ne_zero_of_lt hfuel)
      have hbegins := (h v List.mem_cons_self).begins (level + 1)
      rw [hwritten, value, if_neg (Nat.succ_ne_zero depth), skip_newLine, hbegins.skip_append]
      split
      · next heq =>
        -- the list is not empty, so it does not close at once
        obtain ⟨c, tail, hc, -, hclose, -⟩ := hbegins
        rw [hc] at heq
        exact absurd (List.cons.inj heq).1 hclose
      · rw [Nat.add_sub_cancel, items_written h (by rw [List.length_append]; omega)]
        rfl

theorem settle_of_nodup {ms : List (String × Value)} (h : (ms.map Prod.fst).Nodup) :
    settle ms = ms := by
  have hfold : ∀ es : List (String × Value), ((es ++ ms).map Prod.fst).Nodup →
      ms.foldl (fun es m => Table.put m.1 m.2 es) es = es ++ ms := by
    induction ms with
    | nil => exact fun es _ => (List.append_nil es).symm
    | cons m ms ih =>
      intro es hes
      have hnew : m.1 ∉ es.map Prod.fst := by
        rw [List.map_append, List.map_cons, List.nodup_append] at hes
        exact fun hmem => hes.2.2 _ hmem _ List.mem_cons_self rfl
      rw [List.append_cons] at hes ⊢
      rw [List.foldl_cons, Table.put_of_notMem hnew]
      exact ih (List.nodup_cons.mp h).2 _ hes
  exact hfold [] h

/-- **An object comes back** if its values do, and no name is in it twice. -/
theorem comesBack_object {ms : List (String × Value)} (hnames : (ms.map Prod.fst).Nodup)
    (h : ∀ m ∈ ms, ComesBack depth m.2) : ComesBack (depth + 1) (.object ms) where
  begins level := by
    cases ms <;> exact ⟨'\x7b', _, rfl, by decide, by decide, by decide⟩
  read level fuel rest hfuel hrest := by
    cases ms with
    | nil =>
      obtain ⟨fuel, rfl⟩ := Nat.exists_eq_add_one_of_ne_zero (Nat.ne_zero_of_lt hfuel)
      rfl
    | cons m ms =>
      obtain ⟨name, v⟩ := m
      have hwritten : Writer.value level (.object ((name, v) :: ms)) ++ rest
          = '\x7b' :: (Writer.newLine (level + 1) ++ (Writer.text name ++ (':' :: ' ' ::
            (Writer.value (level + 1) v ++ (Writer.members (level + 1) ms
              ++ (Writer.newLine level ++ '\x7d' :: rest)))))) := by
        simp only [Writer.value, List.cons_append, List.append_assoc, List.nil_append]
      simp only [Writer.value, List.length_append, List.length_cons] at hfuel
      obtain ⟨fuel, rfl⟩ := Nat.exists_eq_add_one_of_ne_zero (Nat.ne_zero_of_lt hfuel)
      rw [hwritten, value, if_neg (Nat.succ_ne_zero depth), skip_newLine, skip_text]
      split
      · next heq => exact absurd (List.cons.inj heq).1 (by decide)
      · rw [Nat.add_sub_cancel, members_written h (by rw [List.length_append]; omega)]
        show Except.ok (Value.object (settle ((name, v) :: ms)), rest) = _
        rw [settle_of_nodup hnames]

end Inside

end Reader

/-! ## Line ends -/

namespace Writer

theorem return_notMem_newLine (level : Nat) : '\r' ∉ newLine level := by
  simp [newLine]

theorem return_notMem_text (s : String) : '\r' ∉ text s := by
  have hescaped : ∀ c, '\r' ∉ escaped c := by
    intro c
    unfold escaped
    split_ifs with hquote hbackslash hline hreturn htab hfeed hback hcontrol
    · decide
    · decide
    · decide
    · decide
    · decide
    · decide
    · decide
    · have hcode := (by decide : ∀ n < 0x20, '\r' ∉ Text.hexPadded 4 n) c.toNat hcontrol
      simp [hcode]
    · exact fun hmem => hreturn (List.mem_singleton.mp hmem).symm
  simp [text, hescaped]

theorem return_notMem_items {vs : List Value} (h : ∀ v ∈ vs, ∀ level, '\r' ∉ value level v)
    (level : Nat) : '\r' ∉ items level vs := by
  induction vs with
  | nil => exact List.not_mem_nil
  | cons v vs ih =>
    rw [List.forall_mem_cons] at h
    simp [items, return_notMem_newLine, h.1, ih h.2]

theorem return_notMem_members {ms : List (String × Value)}
    (h : ∀ m ∈ ms, ∀ level, '\r' ∉ value level m.2) (level : Nat) : '\r' ∉ members level ms := by
  induction ms with
  | nil => exact List.not_mem_nil
  | cons m ms ih =>
    rw [List.forall_mem_cons] at h
    simp [members, return_notMem_newLine, return_notMem_text, h.1, ih h.2]

end Writer

/-! ## Whole texts -/

namespace Value

variable {v : Value}

/-- **Every value that writing keeps comes back.** -/
theorem Kept.comesBack {depth : Nat} (h : v.Kept depth) : Reader.ComesBack depth v := by
  induction h with
  | null => exact Reader.comesBack_null
  | bool b => exact Reader.comesBack_bool b
  | int h => exact Reader.comesBack_int h
  | text s => exact Reader.comesBack_text s
  | list _ ih => exact Reader.comesBack_list ih
  | object hnames _ ih => exact Reader.comesBack_object hnames ih

/-- **What is written is read back.** -/
theorem readChars_write (h : v.Kept Reader.maxDepth) : readChars v.write.toList = .ok v := by
  have hchars : v.write.toList = Writer.value 0 v := String.toList_ofList
  obtain ⟨c, tail, hc, hblank, -, hmark⟩ := h.comesBack.begins 0
  have hread := h.comesBack.read 0 (2 * (Writer.value 0 v).length + 2) [] (by omega) Reader.ends_nil
  rw [List.append_nil] at hread
  have hskip := (h.comesBack.begins 0).skip_append []
  rw [List.append_nil] at hskip
  have hwhole : Reader.whole v.write.toList = .ok v := by
    rw [hchars, Reader.whole]
    · rw [hskip, hread]
      rfl
    · intro behind heq
      rw [hc] at heq
      exact hmark (List.cons.inj heq).1
  unfold readChars
  rw [hwhole]

/-- **What is written has no carriage return** in it, so its line ends stay what they are. -/
theorem Kept.return_notMem {depth : Nat} (h : v.Kept depth) (level : Nat) :
    '\r' ∉ Writer.value level v := by
  induction h generalizing level with
  | null => simp [Writer.value]
  | bool b => cases b <;> simp [Writer.value]
  | @int _ n _ =>
    intro hmem
    change '\r' ∈ (toString n).toList at hmem
    rw [Reader.toList_toString_int] at hmem
    rcases List.mem_append.mp hmem with hmem | hmem
    · split at hmem <;> simp at hmem
    · exact absurd (Nat.isDigit_of_mem_toDigits (by decide) (by decide) hmem) (by decide)
  | text s => exact Writer.return_notMem_text s
  | @list _ vs _ ih =>
    cases vs with
    | nil => simp [Writer.value]
    | cons v vs =>
      rw [List.forall_mem_cons] at ih
      have hitems := Writer.return_notMem_items ih.2 (level + 1)
      simp [Writer.value, Writer.return_notMem_newLine, ih.1, hitems]
  | @object _ ms _ _ ih =>
    cases ms with
    | nil => simp [Writer.value]
    | cons m ms =>
      rw [List.forall_mem_cons] at ih
      have hmembers := Writer.return_notMem_members ih.2 (level + 1)
      simp [Writer.value, Writer.return_notMem_newLine, Writer.return_notMem_text, ih.1, hmembers]

end Value

end CollectionTypes
