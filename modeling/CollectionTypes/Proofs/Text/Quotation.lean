import CollectionTypes.Naming.Member
import CollectionTypes.Proofs.Text.Reader
import CollectionTypes.Value.Reader

/-!
# Quotations

In a document a text stands between apostrophes: a quotation. To whoever reads
the document a text is a row of code units, one for most characters and two for
those beyond the first plane (`units`). A backslash and what is behind it stand
for other units (`Quotation.escape?`), an apostrophe ends the quotation, and a line
cannot break inside it (`Quotation.read`).

Where every apostrophe and every backslash is escaped, a text is read back
exactly if it does not break a line (`Quotation.read_escaped`,
`Quotation.read_escaped_of_broken`). Where nothing is escaped, it is read back
exactly if there is nothing in it to be escaped (`Quotation.read_bare_iff`): an
escape always stands for less than it takes, so what it leaves out cannot come
back.
-/

namespace CollectionTypes.Text

/-! ## Code units -/

/-- The code units of a code: itself, or two halves. -/
def unitsOfCode (n : Nat) : List Nat :=
  if n < 0x10000 then [n]
  else [0xD800 + (n - 0x10000) / 0x400, 0xDC00 + (n - 0x10000) % 0x400]

/-- **The code units of characters.** -/
def units (cs : List Char) : List Nat :=
  cs.flatMap fun c => unitsOfCode c.toNat

theorem unitsOfCode_ne_nil (n : Nat) : unitsOfCode n ≠ [] := by
  unfold unitsOfCode
  split <;> exact List.cons_ne_nil _ _

theorem length_unitsOfCode_le (n : Nat) : (unitsOfCode n).length ≤ 2 := by
  unfold unitsOfCode
  split <;> simp

theorem units_cons (c : Char) (cs : List Char) :
    units (c :: cs) = unitsOfCode c.toNat ++ units cs :=
  List.flatMap_cons

theorem units_append (cs ds : List Char) : units (cs ++ ds) = units cs ++ units ds :=
  List.flatMap_append

/-- There are as many code units as characters, or more. -/
theorem length_le_length_units (cs : List Char) : cs.length ≤ (units cs).length := by
  induction cs with
  | nil => exact Nat.le_refl 0
  | cons c cs ih =>
    have hc : 0 < (unitsOfCode c.toNat).length := List.length_pos_iff.mpr (unitsOfCode_ne_nil _)
    rw [units_cons, List.length_append, List.length_cons]
    omega

/-- No two characters begin with the same code units. -/
theorem unitsOfCode_append_inj {c d : Char} {us vs : List Nat}
    (h : unitsOfCode c.toNat ++ us = unitsOfCode d.toNat ++ vs) : c = d ∧ us = vs := by
  have hc : c.toNat < 0xD800 ∨ 0xDFFF < c.toNat ∧ c.toNat < 0x110000 := c.valid
  have hd : d.toNat < 0xD800 ∨ 0xDFFF < d.toNat ∧ d.toNat < 0x110000 := d.valid
  have hcode : c.toNat = d.toNat := by
    unfold unitsOfCode at h
    split at h <;> split at h <;>
      simp only [List.cons_append, List.nil_append, List.cons.injEq] at h <;> omega
  obtain rfl : c = d := Char.toNat_inj.mp hcode
  exact ⟨rfl, List.append_cancel_left h⟩

/-- **Texts with the same code units are the same.** -/
theorem units_injective : Function.Injective units := by
  intro cs
  induction cs with
  | nil =>
    intro ds h
    cases ds with
    | nil => rfl
    | cons d ds => exact absurd h.symm (List.append_ne_nil_of_left_ne_nil (unitsOfCode_ne_nil _) _)
  | cons c cs ih =>
    intro ds h
    cases ds with
    | nil => exact absurd h (List.append_ne_nil_of_left_ne_nil (unitsOfCode_ne_nil _) _)
    | cons d ds =>
      rw [units_cons, units_cons] at h
      obtain ⟨rfl, hrest⟩ := unitsOfCode_append_inj h
      rw [ih hrest]

end CollectionTypes.Text

namespace CollectionTypes.Quotation

open Text

/-! ## Escapes -/

/-- The number that digits in base sixteen write down. -/
def hexNumber? (cs : List Char) : Option Nat :=
  (cs.mapM CollectionTypes.Reader.hexDigit?).map fun ds => ds.foldl (16 * · + ·) 0

/-- The number that so many digits in base sixteen write down. -/
def code? (n : Nat) (cs : List Char) : Option Nat :=
  if n ≤ cs.length then hexNumber? (cs.take n) else none

/-- The number that digits up to a closing brace write down, if it is a code, and how
many characters these are. -/
def bracedCode? (cs : List Char) : Option (Nat × Nat) :=
  let digits := cs.takeWhile (· != '\x7d')
  if 0 < digits.length ∧ digits.length < cs.length then
    ((hexNumber? digits).filter (· ≤ 0x10FFFF)).map (·, digits.length + 1)
  else none

/-- The line ends: behind a backslash they stand for nothing. -/
def endsLine (c : Char) : Bool :=
  c == '\n' || c == '\r' || c == '\u2028' || c == '\u2029'

/-- The letters that stand for a control behind a backslash. -/
def controls : List (Char × Nat) :=
  [('b', 8), ('t', 9), ('n', 10), ('v', 11), ('f', 12), ('r', 13)]

/-- **What the characters behind a backslash stand for**, and how many of them do.
Most characters stand for themselves; a digit for nothing that is allowed, but for
a zero with no other digit behind it. -/
def escape? : List Char → Option (List Nat × Nat)
  | [] => none
  | 'x' :: cs => (code? 2 cs).map fun n => ([n], 3)
  | 'u' :: '\x7b' :: cs => (bracedCode? cs).map fun p => (unitsOfCode p.1, p.2 + 2)
  | 'u' :: cs => (code? 4 cs).map fun n => ([n], 5)
  | '\r' :: '\n' :: _ => some ([], 2)
  | c :: cs =>
    if endsLine c then some ([], 1)
    else if c = '0' ∧ ¬ cs.head?.any Char.isDigit then some ([0], 1)
    else if c.isDigit then none
    else some ((controls.lookup c).elim (unitsOfCode c.toNat) ([·]), 1)

/-- **A quotation**, up to the apostrophe that ends it. -/
def read : Reader (List Nat)
  | [] => none
  | c :: cs =>
    if c = '\'' then some ([], cs)
    else if c = '\n' ∨ c = '\r' then none
    else if c = '\\' then do
      let (us, n) ← escape? cs
      let (vs, rest) ← read (cs.drop n)
      return (us ++ vs, rest)
    else do
      let (us, rest) ← read cs
      return (unitsOfCode c.toNat ++ us, rest)
termination_by cs => cs.length
decreasing_by all_goals simp only [List.length_drop, List.length_cons]; omega

/-! ## Reading character by character -/

theorem read_apostrophe (cs : List Char) : read ('\'' :: cs) = some ([], cs) := by
  rw [read, if_pos rfl]

/-- No line breaks inside a quotation. -/
theorem read_lineBreak {c : Char} (h : c = '\n' ∨ c = '\r') (cs : List Char) :
    read (c :: cs) = none := by
  have hend : c ≠ '\'' := by
    rcases h with rfl | rfl <;> decide
  rw [read, if_neg hend, if_pos h]

theorem read_backslash (cs : List Char) :
    read ('\\' :: cs)
      = (escape? cs).bind fun e => (read (cs.drop e.2)).map fun p => (e.1 ++ p.1, p.2) := by
  rw [read, if_neg (by decide), if_neg (by decide), if_pos rfl]
  refine congrArg (Option.bind _) (funext fun ⟨us, n⟩ => ?_)
  show (read (cs.drop n)).bind _ = _
  cases read (cs.drop n) <;> rfl

/-- A character that ends no quotation, breaks no line and begins no escape stands for
itself. -/
theorem read_plain {c : Char} (hend : c ≠ '\'') (hline : ¬ (c = '\n' ∨ c = '\r'))
    (hescape : c ≠ '\\') (cs : List Char) :
    read (c :: cs) = (read cs).map fun p => (unitsOfCode c.toNat ++ p.1, p.2) := by
  rw [read, if_neg hend, if_neg hline, if_neg hescape]
  cases read cs <;> rfl

/-- What a backslash stands in front of: an escape, and the rest of the quotation. -/
theorem read_backslash_eq_some {cs rest : List Char} {us : List Nat}
    (h : read ('\\' :: cs) = some (us, rest)) :
    ∃ vs n ws, escape? cs = some (vs, n) ∧ read (cs.drop n) = some (ws, rest)
      ∧ us = vs ++ ws := by
  rw [read_backslash] at h
  obtain ⟨⟨vs, n⟩, hescape, h⟩ := Option.bind_eq_some_iff.mp h
  obtain ⟨⟨ws, _⟩, hread, hus⟩ := Option.map_eq_some_iff.mp h
  cases hus
  exact ⟨vs, n, ws, hescape, hread, rfl⟩

/-! ## What a quotation takes -/

/-- So many characters have as many code units, or more. -/
theorem le_length_units_take {m n : Nat} {cs : List Char} (hm : m ≤ n) (hn : n ≤ cs.length) :
    m ≤ (units (cs.take n)).length := by
  have hlength := length_le_length_units (cs.take n)
  rw [List.length_take_of_le hn] at hlength
  exact Nat.le_trans hm hlength

/-- A code is written with as many digits as it should. -/
theorem le_length_of_code? {n k : Nat} {cs : List Char} (h : code? n cs = some k) :
    n ≤ cs.length := by
  unfold code? at h
  split at h
  · assumption
  · cases h

/-- A code in braces has a brace behind its digits. -/
theorem le_length_of_bracedCode? {k n : Nat} {cs : List Char} (h : bracedCode? cs = some (k, n)) :
    n ≤ cs.length := by
  unfold bracedCode? at h
  dsimp only at h
  split at h
  · next hdigits =>
    obtain ⟨m, -, hp⟩ := Option.map_eq_some_iff.mp h
    cases hp
    omega
  · cases h

/-- An escape stands for no more code units than are behind its backslash. -/
theorem length_escape?_le {cs : List Char} {us : List Nat} {n : Nat}
    (h : escape? cs = some (us, n)) : us.length ≤ (units (cs.take n)).length := by
  have hcode : ∀ {m : Nat} {c : Char} {cs : List Char},
      (code? m cs).map (fun k => ([k], m + 1)) = some (us, n) →
      us.length ≤ (units ((c :: cs).take n)).length := by
    intro m c cs h
    obtain ⟨k, hk, hus⟩ := Option.map_eq_some_iff.mp h
    cases hus
    exact le_length_units_take (by simp) (by simpa using le_length_of_code? hk)
  unfold escape? at h
  split at h
  · cases h
  · exact hcode h
  · next cs =>
    obtain ⟨⟨k, length⟩, hk, hus⟩ := Option.map_eq_some_iff.mp h
    cases hus
    have hlength := le_length_of_bracedCode? hk
    refine le_length_units_take (Nat.le_trans (length_unitsOfCode_le _) (by omega)) ?_
    simp only [List.length_cons]
    omega
  · exact hcode h
  · cases h
    exact Nat.zero_le _
  · next c cs _ _ _ _ =>
    split at h
    · cases h
      exact Nat.zero_le _
    · split at h
      · cases h
        exact le_length_units_take (Nat.le_refl 1) (by simp)
      · split at h
        · cases h
        · obtain ⟨rfl, rfl⟩ := Prod.mk.inj (Option.some.inj h)
          cases controls.lookup c with
          | some k => exact le_length_units_take (Nat.le_refl 1) (by simp)
          | none =>
            rw [List.take_succ_cons, List.take_zero, units_cons, List.length_append]
            exact Nat.le_add_right _ _

/-- An escape takes its part, where what is behind it takes more than its own. -/
theorem length_behind_escape_lt {cs : List Char} {us vs : List Nat} {n k : Nat}
    (hescape : escape? cs = some (us, n)) (h : vs.length + k < (units (cs.drop n)).length) :
    (us ++ vs).length + k < (units cs).length := by
  have hstands := length_escape?_le hescape
  have hsplit : (units cs).length
      = (units (cs.take n)).length + (units (cs.drop n)).length := by
    rw [← List.length_append, ← units_append, List.take_append_drop]
  rw [List.length_append]
  omega

/-- **A quotation takes more than it stands for.** -/
theorem length_read_lt {cs rest : List Char} {us : List Nat} (h : read cs = some (us, rest)) :
    us.length + (units rest).length < (units cs).length := by
  induction hlength : cs.length using Nat.strongRecOn generalizing cs us with
  | ind _ ih =>
    subst hlength
    cases cs with
    | nil =>
      rw [read] at h
      cases h
    | cons c cs =>
      have hc : 0 < (unitsOfCode c.toNat).length := List.length_pos_iff.mpr (unitsOfCode_ne_nil _)
      rw [units_cons, List.length_append]
      by_cases hend : c = '\''
      · rw [hend, read_apostrophe] at h
        cases h
        simpa using hc
      by_cases hline : c = '\n' ∨ c = '\r'
      · rw [read_lineBreak hline] at h
        cases h
      by_cases hescape : c = '\\'
      · rw [hescape] at h
        obtain ⟨vs, n, ws, hvs, hws, rfl⟩ := read_backslash_eq_some h
        have hbehind := length_behind_escape_lt hvs
          (ih _ (by rw [List.length_drop, List.length_cons]; omega) hws rfl)
        omega
      · rw [read_plain hend hline hescape] at h
        obtain ⟨⟨ws, behind⟩, hws, hus⟩ := Option.map_eq_some_iff.mp h
        cases hus
        have hbehind := ih _ (Nat.lt_succ_self _) hws rfl
        dsimp only at hbehind ⊢
        rw [List.length_append]
        omega

/-! ## What is read back -/

/-- **A text on one line.** -/
def OnOneLine (cs : List Char) : Prop :=
  ∀ c ∈ cs, ¬ (c = '\n' ∨ c = '\r')

/-- **A text in which nothing has to be escaped.** -/
def IsPlain (cs : List Char) : Prop :=
  ∀ c ∈ cs, c ≠ '\'' ∧ c ≠ '\\' ∧ ¬ (c = '\n' ∨ c = '\r')

instance : DecidablePred OnOneLine := fun cs => List.decidableBAll _ cs

instance : DecidablePred IsPlain := fun cs => List.decidableBAll _ cs

theorem IsPlain.onOneLine {cs : List Char} (h : IsPlain cs) : OnOneLine cs :=
  fun c hc => (h c hc).2.2

/-- An escaped character stands for itself. -/
theorem read_escapedChar {c : Char} (hline : ¬ (c = '\n' ∨ c = '\r')) (cs : List Char) :
    read (Naming.escapedChar c ++ cs)
      = (read cs).map fun p => (unitsOfCode c.toNat ++ p.1, p.2) := by
  unfold Naming.escapedChar
  split
  · next hescaped =>
    have hescape : escape? (c :: cs) = some (unitsOfCode c.toNat, 1) := by
      rcases hescaped with rfl | rfl <;> rfl
    rw [List.cons_append, List.singleton_append, read_backslash, hescape]
    rfl
  · next hplain =>
    rw [not_or] at hplain
    exact read_plain hplain.2 hline hplain.1 cs

/-- **Text on one line is read back** from its escaped form. -/
theorem read_escaped {cs : List Char} (h : OnOneLine cs) (rest : List Char) :
    read (cs.flatMap Naming.escapedChar ++ '\'' :: rest) = some (units cs, rest) := by
  induction cs with
  | nil => exact read_apostrophe rest
  | cons c cs ih =>
    obtain ⟨hc, hcs⟩ := List.forall_mem_cons.mp h
    rw [List.flatMap_cons, List.append_assoc, read_escapedChar hc, ih hcs, units_cons]
    rfl

/-- **Text on several lines is not a quotation**, whatever is escaped in it. -/
theorem read_escaped_of_broken {cs : List Char} (h : ¬ OnOneLine cs) (rest : List Char) :
    read (cs.flatMap Naming.escapedChar ++ rest) = none := by
  induction cs with
  | nil => exact absurd (fun c hc => absurd hc List.not_mem_nil) h
  | cons c cs ih =>
    rw [List.flatMap_cons, List.append_assoc]
    by_cases hc : c = '\n' ∨ c = '\r'
    · have hplain : Naming.escapedChar c = [c] := by
        rcases hc with rfl | rfl <;> rfl
      rw [hplain, List.singleton_append, read_lineBreak hc]
    · have hcs : ¬ OnOneLine cs := fun hcs => h (List.forall_mem_cons.mpr ⟨hc, hcs⟩)
      rw [read_escapedChar hc, ih hcs]
      rfl

/-- **Text in which nothing is escaped is read back** exactly if nothing has to be. -/
theorem read_bare_iff {cs rest : List Char} :
    read (cs ++ '\'' :: rest) = some (units cs, rest) ↔ IsPlain cs := by
  constructor
  · intro h
    induction cs with
    | nil => exact fun c hc => absurd hc List.not_mem_nil
    | cons c cs ih =>
      rw [List.cons_append] at h
      rw [IsPlain, List.forall_mem_cons]
      by_cases hend : c = '\''
      · rw [hend, read_apostrophe, units_cons] at h
        exact absurd (congrArg Prod.fst (Option.some.inj h)).symm
          (List.append_ne_nil_of_left_ne_nil (unitsOfCode_ne_nil _) _)
      by_cases hline : c = '\n' ∨ c = '\r'
      · rw [read_lineBreak hline] at h
        cases h
      by_cases hescape : c = '\\'
      · -- what is left out of an escape is missing at the end
        rw [hescape] at h
        obtain ⟨vs, n, ws, hvs, hws, hus⟩ := read_backslash_eq_some h
        have hlength := length_behind_escape_lt hvs (length_read_lt hws)
        rw [← hus, units_append, units_cons, units_cons, List.length_append, List.length_append,
          List.length_append] at hlength
        have hone : (unitsOfCode '\\'.toNat).length = 1 ∧ (unitsOfCode '\''.toNat).length = 1 :=
          ⟨rfl, rfl⟩
        omega
      · rw [read_plain hend hline hescape] at h
        obtain ⟨⟨ws, behind⟩, hws, hus⟩ := Option.map_eq_some_iff.mp h
        obtain ⟨hus, hbehind⟩ := Prod.mk.inj hus
        rw [units_cons] at hus
        have hvalue : ws = units cs := List.append_cancel_left hus
        rw [hvalue, show behind = rest from hbehind] at hws
        exact ⟨⟨hend, hescape, hline⟩, ih hws⟩
  · intro h
    induction cs with
    | nil => exact read_apostrophe rest
    | cons c cs ih =>
      obtain ⟨⟨hend, hescape, hline⟩, hcs⟩ := List.forall_mem_cons.mp h
      rw [List.cons_append, read_plain hend hline hescape, ih hcs, units_cons]
      rfl

end CollectionTypes.Quotation
