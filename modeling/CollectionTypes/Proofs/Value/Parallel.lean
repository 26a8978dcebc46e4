import CollectionTypes.Proofs.Value.Fuel
import CollectionTypes.Proofs.Value.ReadBack

/-!
# Texts that run in parallel

Two texts run in parallel (`Reader.Parallel`) if a reader that goes through both at once
always finds the same, line ends apart: what stands at the front of the one stands at the
front of the other, or blanks stand there in both. The second text may go on where the first
ends, but only with blanks and what closes an object around it.

A reader that succeeds on the first text gives the same on the second, and what it leaves
of them runs in parallel again; and where the first text exceeds a limit, so does the second
(`Reader.Follows`). This holds of every token and so, by induction on the fuel, of every
value (`Reader.Parallel.readers`).
-/

namespace CollectionTypes

namespace Reader

open Outcome

/-- A character that is no part of a line end. -/
abbrev Inline (c : Char) : Prop := c ≠ '\r' ∧ c ≠ '\n'

/-- A character that is no blank and closes no object. -/
abbrev Solid (c : Char) : Prop := isBlank c = false ∧ c ≠ '\x7d'

theorem inline_of_not_isBlank {c : Char} (h : isBlank c = false) : Inline c := by
  constructor <;> rintro rfl <;> cases h

/-- **Texts that run in parallel**, line ends apart. -/
structure Parallel (R : List Char → List Char → Prop) : Prop where
  forth : ∀ {c : Char} {cs ds : List Char}, R (c :: cs) ds → Inline c →
    ∃ ds', ds = c :: ds' ∧ R cs ds'
  /-- The second text goes on only with blanks and what closes an object. -/
  back : ∀ {c : Char} {cs ds : List Char}, R cs (c :: ds) → Solid c → ∃ cs', cs = c :: cs'
  blanks : ∀ {cs ds : List Char}, R cs ds → R (skip cs) (skip ds)

/-- **A reading follows another**: it gives the same if that one succeeds or exceeds a
limit. -/
structure Follows {α : Type} (R : List Char → List Char → Prop)
    (x y : Except Stuck (α × List Char)) : Prop where
  ok : ∀ {a : α} {rest : List Char}, x = .ok (a, rest) → ∃ rest', y = .ok (a, rest') ∧ R rest rest'
  excess : ∀ {e : Excess}, x = .error (.excess e) → y = .error (.excess e)

section Follows

variable {α β : Type} {R : List Char → List Char → Prop}

theorem follows_ok {a : α} {rest rest' : List Char} (h : R rest rest') :
    Follows R (.ok (a, rest)) (.ok (a, rest')) where
  ok := by
    rintro _ _ heq
    cases heq
    exact ⟨rest', rfl, h⟩
  excess heq := nomatch heq

theorem follows_misspelt (complaint : Complaint) (cs : List Char)
    (y : Except Stuck (α × List Char)) : Follows R (.error (.misspelt complaint cs)) y where
  ok heq := nomatch heq
  excess heq := nomatch heq

theorem follows_excess (e : Excess) :
    Follows R (.error (.excess e) : Except Stuck (α × List Char)) (.error (.excess e)) where
  ok heq := nomatch heq
  excess heq := by
    cases heq
    rfl

/-- **Reading on** follows if it does so whatever is left. -/
theorem Follows.bind {x y : Except Stuck (α × List Char)}
    {f g : α × List Char → Except Stuck (β × List Char)} (h : Follows R x y)
    (hfg : ∀ a rest rest', R rest rest' → Follows R (f (a, rest)) (g (a, rest'))) :
    Follows R (x >>= f) (y >>= g) := by
  cases x with
  | ok r =>
    obtain ⟨a, rest⟩ := r
    obtain ⟨rest', rfl, hrest⟩ := h.ok rfl
    exact hfg _ _ _ hrest
  | error stuck =>
    cases stuck with
    | misspelt complaint cs => exact follows_misspelt _ _ _
    | excess e =>
      rw [h.excess rfl]
      exact follows_excess e

end Follows

namespace Parallel

variable {R : List Char → List Char → Prop} {c : Char} {cs ds front rest : List Char}

/-! ## Characters at the front -/

theorem forth_append (h : Parallel R) (front : List Char) (hfront : ∀ c ∈ front, Inline c)
    (hR : R (front ++ cs) ds) : ∃ ds', ds = front ++ ds' ∧ R cs ds' := by
  induction front generalizing ds with
  | nil => exact ⟨ds, rfl, hR⟩
  | cons c front ih =>
    rw [List.forall_mem_cons] at hfront
    obtain ⟨ds', rfl, hR'⟩ := h.forth hR hfront.1
    obtain ⟨ds'', rfl, hR''⟩ := ih hfront.2 hR'
    exact ⟨ds'', rfl, hR''⟩

theorem back_cons (h : Parallel R) (hR : R cs (c :: ds)) (hc : Solid c) :
    ∃ cs', cs = c :: cs' ∧ R cs' ds := by
  obtain ⟨cs', rfl⟩ := h.back hR hc
  obtain ⟨ds', hds, hR'⟩ := h.forth hR (inline_of_not_isBlank hc.1)
  cases hds
  exact ⟨cs', rfl, hR'⟩

theorem back_append (h : Parallel R) (front : List Char) (hfront : ∀ c ∈ front, Solid c)
    (hR : R cs (front ++ ds)) : ∃ cs', cs = front ++ cs' ∧ R cs' ds := by
  induction front generalizing cs with
  | nil => exact ⟨cs, rfl, hR⟩
  | cons c front ih =>
    rw [List.forall_mem_cons] at hfront
    obtain ⟨cs', rfl, hR'⟩ := h.back_cons hR hfront.1
    obtain ⟨cs'', rfl, hR''⟩ := ih hfront.2 hR'
    exact ⟨cs'', rfl, hR''⟩

/-! ## Texts -/

theorem isBlank_eq_false (hspace : c ≠ ' ') (htab : c ≠ '\t') (hinline : Inline c) :
    isBlank c = false := by
  simp [isBlank, hspace, htab, hinline.1, hinline.2]

theorem solid_of_hexDigit? {n : Nat} (h : hexDigit? c = some n) : Solid c := by
  refine ⟨isBlank_eq_false ?_ ?_ ⟨?_, ?_⟩, ?_⟩ <;> rintro rfl <;> cases h

/-- The four digits at the front, on their own. -/
theorem exists_front_of_fourHex? {n : Nat} (h : fourHex? cs = some (n, rest)) :
    ∃ front, cs = front ++ rest ∧ fourHex? front = some (n, [])
      ∧ ∀ c ∈ front, Solid c := by
  unfold fourHex? at h
  split at h
  · next a b c d tail =>
    obtain ⟨a', ha, h⟩ := Option.bind_eq_some_iff.mp h
    obtain ⟨b', hb, h⟩ := Option.bind_eq_some_iff.mp h
    obtain ⟨c', hc, h⟩ := Option.bind_eq_some_iff.mp h
    obtain ⟨d', hd, h⟩ := Option.bind_eq_some_iff.mp h
    cases h
    refine ⟨[a, b, c, d], rfl, ?_, ?_⟩
    · simp [fourHex?, ha, hb, hc, hd]
    · simp only [List.forall_mem_cons]
      exact ⟨solid_of_hexDigit? ha, solid_of_hexDigit? hb, solid_of_hexDigit? hc,
        solid_of_hexDigit? hd, fun _ hc => absurd hc List.not_mem_nil⟩
  · cases h

theorem forth_fourHex? (h : Parallel R) {n : Nat} (hR : R cs ds)
    (hread : fourHex? cs = some (n, rest)) :
    ∃ rest', fourHex? ds = some (n, rest') ∧ R rest rest' := by
  obtain ⟨front, rfl, hfront, hsolid⟩ := exists_front_of_fourHex? hread
  obtain ⟨ds', rfl, hR'⟩ := h.forth_append _ (fun c hc => inline_of_not_isBlank (hsolid c hc).1) hR
  exact ⟨ds', fourHex?_append hfront ds', hR'⟩

theorem back_fourHex? (h : Parallel R) {n : Nat} (hR : R cs ds)
    (hread : fourHex? ds = some (n, rest)) : ∃ rest', fourHex? cs = some (n, rest') := by
  obtain ⟨front, rfl, hfront, hsolid⟩ := exists_front_of_fourHex? hread
  obtain ⟨cs', rfl, -⟩ := h.back_append _ hsolid hR
  exact ⟨cs', fourHex?_append hfront cs'⟩

/-- What a code begins with. -/
theorem solid_of_mem_escape : ∀ c ∈ ['\\', 'u'], Solid c :=
  List.forall_mem_cons.mpr ⟨by decide, List.forall_mem_singleton.mpr (by decide)⟩

theorem inline_of_mem_escape : ∀ c ∈ ['\\', 'u'], Inline c :=
  fun c hc => inline_of_not_isBlank (solid_of_mem_escape c hc).1

/-- **A code stands for the same** in both texts. -/
theorem forth_code (h : Parallel R) (hR : R cs ds) (hcode : Code cs c rest) :
    ∃ rest', Code ds c rest' ∧ R rest rest' := by
  cases hcode with
  | pair hhigh hfirst hlow hsecond =>
    obtain ⟨behind, hhigh', hbehind⟩ := h.forth_fourHex? hR hhigh
    obtain ⟨digits', rfl, hdigits⟩ := h.forth_append _ inline_of_mem_escape hbehind
    obtain ⟨rest', hlow', hrest⟩ := h.forth_fourHex? hdigits hlow
    exact ⟨rest', .pair hhigh' hfirst hlow' hsecond, hrest⟩
  | alone hcode halone =>
    obtain ⟨rest', hcode', hrest⟩ := h.forth_fourHex? hR hcode
    refine ⟨rest', .alone hcode' fun hfirst digits' low behind hdigits' hlow' => ?_, hrest⟩
    subst hdigits'
    obtain ⟨digits, hdigits, hR'⟩ :=
      h.back_append _ solid_of_mem_escape hrest
    obtain ⟨behind', hlow⟩ := h.back_fourHex? hR' hlow'
    exact halone hfirst digits low behind' hdigits hlow

/-- **The inside of a text spells the same** in both texts. -/
theorem forth_inside (h : Parallel R) {chars : List Char} (hin : Inside cs chars rest)
    (hR : R cs ds) : ∃ rest', Inside ds chars rest' ∧ R rest rest' := by
  induction hin generalizing ds with
  | close rest =>
    obtain ⟨rest', rfl, hrest⟩ := h.forth hR (by decide)
    exact ⟨rest', .close rest', hrest⟩
  | @plain c _ _ _ hquote hbackslash hcontrol _ ih =>
    have hc : Inline c := by
      constructor <;> rintro rfl <;> exact hcontrol (by decide)
    obtain ⟨ds', rfl, hR'⟩ := h.forth hR hc
    obtain ⟨rest', hin', hrest⟩ := ih hR'
    exact ⟨rest', .plain hquote hbackslash hcontrol hin', hrest⟩
  | @letter e _ _ _ _ he _ ih =>
    have hinline : Inline e := by
      constructor <;> rintro rfl <;> cases he
    obtain ⟨ds', rfl, hR'⟩ := h.forth hR (by decide)
    obtain ⟨ds'', rfl, hR''⟩ := h.forth hR' hinline
    obtain ⟨rest', hin', hrest⟩ := ih hR''
    exact ⟨rest', .letter he hin', hrest⟩
  | code hcode _ ih =>
    obtain ⟨ds', rfl, hR'⟩ := h.forth_append _ inline_of_mem_escape hR
    obtain ⟨behind', hcode', hbehind⟩ := h.forth_code hR' hcode
    obtain ⟨rest', hin', hrest⟩ := ih hbehind
    exact ⟨rest', .code hcode' hin', hrest⟩

theorem follows_quotedText (h : Parallel R) (hR : R cs ds) :
    Follows R (quotedText ('"' :: cs)) (quotedText ('"' :: ds)) where
  ok hread := by
    obtain ⟨rest', hin, hrest⟩ := h.forth_inside (quotedText_ok_iff.mp hread) hR
    exact ⟨rest', quotedText_ok_iff.mpr hin, hrest⟩
  excess hread := absurd hread (quotedText_ne_excess _)

/-! ## Numbers -/

/-- **What is taken off two texts** is the same, and what is left of them runs in parallel. -/
def Beside {α : Type} (R : List Char → List Char → Prop) (p q : α × List Char) : Prop :=
  p.1 = q.1 ∧ R p.2 q.2

theorem solid_of_isDigit (hc : c.isDigit = true) : Solid c :=
  ⟨isBlank_eq_false (ne_of_isDigit hc rfl) (ne_of_isDigit hc rfl)
    ⟨ne_of_isDigit hc rfl, ne_of_isDigit hc rfl⟩, ne_of_isDigit hc rfl⟩

theorem inline_of_isDigit (hc : c.isDigit = true) : Inline c :=
  inline_of_not_isBlank (solid_of_isDigit hc).1

theorem beside_minus (h : Parallel R) (hR : R cs ds) : Beside R (minus cs) (minus ds) := by
  unfold minus
  split
  · obtain ⟨ds', rfl, hR'⟩ := h.forth hR (by decide)
    exact ⟨rfl, hR'⟩
  · next hother =>
    split
    · obtain ⟨cs', rfl⟩ := h.back hR (by decide)
      exact absurd rfl (hother cs')
    · exact ⟨rfl, hR⟩

theorem digits_cons_of_isDigit (hc : c.isDigit = true) (cs : List Char) :
    digits (c :: cs) = (c :: (digits cs).1, (digits cs).2) := by
  simp [digits, hc]

theorem digits_of_head? (hcs : ∀ c ∈ cs.head?, c.isDigit = false) : digits cs = ([], cs) := by
  cases cs with
  | nil => rfl
  | cons c cs => simp [digits, hcs c rfl]

/-- No digits in front of the first text, none in front of the second. -/
theorem beside_digits_of_head? (h : Parallel R) (hR : R cs ds)
    (hcs : ∀ c ∈ cs.head?, c.isDigit = false) : Beside R (digits cs) (digits ds) := by
  have hds : ∀ d ∈ ds.head?, d.isDigit = false := by
    intro d hd
    obtain ⟨ds', rfl⟩ := List.head?_eq_some_iff.mp hd
    by_contra hdigit
    rw [Bool.not_eq_false] at hdigit
    obtain ⟨cs', rfl⟩ := h.back hR (solid_of_isDigit hdigit)
    exact Bool.false_ne_true ((hcs d rfl).symm.trans hdigit)
  rw [digits_of_head? hcs, digits_of_head? hds]
  exact ⟨rfl, hR⟩

theorem beside_digits (h : Parallel R) (hR : R cs ds) : Beside R (digits cs) (digits ds) := by
  induction cs generalizing ds with
  | nil => exact h.beside_digits_of_head? hR fun _ hc => nomatch hc
  | cons c cs ih =>
    by_cases hc : c.isDigit = true
    · obtain ⟨ds', rfl, hR'⟩ := h.forth hR (inline_of_isDigit hc)
      rw [digits_cons_of_isDigit hc, digits_cons_of_isDigit hc]
      exact ⟨congrArg (List.cons c) (ih hR').1, (ih hR').2⟩
    · exact h.beside_digits_of_head? hR (by simpa using hc)

theorem beside_wholePart (h : Parallel R) (hR : R cs ds) :
    Beside R (wholePart cs) (wholePart ds) := by
  unfold wholePart
  split
  · obtain ⟨ds', rfl, hR'⟩ := h.forth hR (by decide)
    exact ⟨rfl, hR'⟩
  · next hother =>
    split
    · obtain ⟨cs', rfl⟩ := h.back hR (by decide)
      exact absurd rfl (hother cs')
    · exact h.beside_digits hR

theorem beside_fraction (h : Parallel R) (hR : R cs ds) :
    Beside R (fraction cs) (fraction ds) := by
  have hpoint : ∀ rest, fraction ('.' :: rest)
      = if (digits rest).1.isEmpty then ([], '.' :: rest) else digits rest := fun _ => rfl
  by_cases hcs : ∃ cs', cs = '.' :: cs'
  · obtain ⟨cs', rfl⟩ := hcs
    obtain ⟨ds', rfl, hR'⟩ := h.forth hR (by decide)
    have hdigits := h.beside_digits hR'
    rw [hpoint, hpoint, hdigits.1]
    split_ifs
    · exact ⟨rfl, hR⟩
    · exact hdigits
  · unfold fraction
    split
    · exact absurd ⟨_, rfl⟩ hcs
    · split
      · exact absurd (h.back hR (by decide)) hcs
      · exact ⟨rfl, hR⟩

theorem beside_exponentSign (h : Parallel R) (hR : R cs ds) :
    Beside R (exponentSign cs) (exponentSign ds) := by
  unfold exponentSign
  split
  · obtain ⟨ds', rfl, hR'⟩ := h.forth hR (by decide)
    exact ⟨rfl, hR'⟩
  · obtain ⟨ds', rfl, hR'⟩ := h.forth hR (by decide)
    exact ⟨rfl, hR'⟩
  · next hminus hplus =>
    split
    · obtain ⟨cs', rfl⟩ := h.back hR (by decide)
      exact absurd rfl (hminus cs')
    · obtain ⟨cs', rfl⟩ := h.back hR (by decide)
      exact absurd rfl (hplus cs')
    · exact ⟨rfl, hR⟩

theorem exponent_of_head? (hcs : ∀ c ∈ cs.head?, ¬ (c = 'e' ∨ c = 'E')) :
    exponent cs = (none, cs) := by
  cases cs with
  | nil => rfl
  | cons c cs => rw [exponent, if_neg (hcs c rfl)]

theorem beside_exponent (h : Parallel R) (hR : R cs ds) :
    Beside R (exponent cs) (exponent ds) := by
  have hsolid : ∀ {c : Char}, c = 'e' ∨ c = 'E' → Solid c := by
    rintro c (rfl | rfl) <;> decide
  by_cases hmark : ∃ c ∈ cs.head?, c = 'e' ∨ c = 'E'
  · obtain ⟨c, hc, hmark⟩ := hmark
    obtain ⟨cs', rfl⟩ := List.head?_eq_some_iff.mp hc
    obtain ⟨ds', rfl, hR'⟩ := h.forth hR (inline_of_not_isBlank (hsolid hmark).1)
    have hsign := h.beside_exponentSign hR'
    have hdigits := h.beside_digits hsign.2
    rw [exponent, exponent, if_pos hmark, if_pos hmark]
    dsimp only
    rw [hdigits.1, hsign.1]
    split_ifs
    · exact ⟨rfl, hR⟩
    all_goals exact ⟨rfl, hdigits.2⟩
  · have hcs : ∀ c ∈ cs.head?, ¬ (c = 'e' ∨ c = 'E') := fun c hc hm => hmark ⟨c, hc, hm⟩
    have hds : ∀ d ∈ ds.head?, ¬ (d = 'e' ∨ d = 'E') := by
      intro d hd hm
      obtain ⟨ds', rfl⟩ := List.head?_eq_some_iff.mp hd
      obtain ⟨cs', rfl⟩ := h.back hR (hsolid hm)
      exact hcs d rfl hm
    rw [exponent_of_head? hcs, exponent_of_head? hds]
    exact ⟨rfl, hR⟩

/-- **A number is the same** in both texts. -/
theorem follows_number (h : Parallel R) (hR : R cs ds) : Follows R (number cs) (number ds) := by
  have hsign := h.beside_minus hR
  have hwhole := h.beside_wholePart hsign.2
  have hfraction := h.beside_fraction hwhole.2
  have hexponent := h.beside_exponent hfraction.2
  unfold number
  dsimp only
  rw [hsign.1, hwhole.1, hfraction.1, hexponent.1]
  split_ifs
  · exact follows_misspelt _ _ _
  · exact follows_excess _
  all_goals exact follows_ok hexponent.2

/-- What is taken for a number, unless it is misspelt, begins as a whole number does. -/
theorem number_front (cs : List Char) :
    number cs = .error (.misspelt .expectingValue cs)
      ∨ ∃ sign d tail, cs = sign ++ d :: tail ∧ (sign = [] ∨ sign = ['-']) ∧ d.isDigit = true := by
  have hsign : ∃ sign, cs = sign ++ (minus cs).2 ∧ (sign = [] ∨ sign = ['-']) := by
    unfold minus
    split
    · exact ⟨['-'], rfl, .inr rfl⟩
    · exact ⟨[], rfl, .inl rfl⟩
  obtain ⟨sign, hcs, hsign⟩ := hsign
  cases hwhole : (wholePart (minus cs).2).1 with
  | nil =>
    left
    unfold number
    dsimp only
    rw [hwhole]
    rfl
  | cons d ds =>
    right
    have hd : d.isDigit = true :=
      isDigit_of_mem_wholePart (minus cs).2 d (hwhole ▸ List.mem_cons_self)
    have htail := append_wholePart (minus cs).2
    rw [hwhole, List.cons_append] at htail
    rw [← htail] at hcs
    exact ⟨sign, d, _, hcs, hsign, hd⟩

/-! ## Values -/

/-- A word is taken off whatever is behind it. -/
theorem value_word {w : List Char × Value} (hw : w ∈ words) (fuel depth : Nat) (rest : List Char) :
    value (fuel + 1) depth (w.1 ++ rest) = .ok (w.2, rest) := by
  simp only [words, List.mem_cons, List.not_mem_nil, or_false] at hw
  rcases hw with rfl | rfl | rfl | rfl | rfl | rfl <;> rfl

/-- **A word or a number** is the same in both texts. -/
theorem follows_scalar (h : Parallel R) (hR : R cs ds) (fuel depth : Nat) :
    Follows R (match word? cs with
      | some found => .ok found
      | none => number cs) (value (fuel + 1) depth ds) := by
  cases hword : word? cs with
  | some found =>
    obtain ⟨w, hw, rfl, hv⟩ := exists_word_of_word? hword
    have hinline : (w.1.all fun c => decide (Inline c)) = true :=
      (by decide : ∀ w ∈ words, (w.1.all fun c => decide (Inline c)) = true) w hw
    obtain ⟨ds', rfl, hR'⟩ := h.forth_append _ (by simpa using hinline) hR
    rw [value_word hw, hv]
    exact follows_ok hR'
  | none =>
    rcases number_front cs with hnumber | ⟨sign, d, tail, rfl, hsign, hd⟩
    · dsimp only
      rw [hnumber]
      exact follows_misspelt _ _ _
    · have hinline : ∀ c ∈ sign ++ [d], Inline c := by
        intro c hc
        rcases List.mem_append.mp hc with hc | hc
        · rcases hsign with rfl | rfl
          · cases hc
          · rw [List.mem_singleton.mp hc]
            decide
        · rw [List.mem_singleton.mp hc]
          exact inline_of_isDigit hd
      obtain ⟨tail', rfl, -⟩ := h.forth_append (sign ++ [d]) hinline
        (show R ((sign ++ [d]) ++ tail) ds by simpa using hR)
      rw [List.append_assoc, List.singleton_append] at hR ⊢
      rw [value_eq_number hsign hd]
      exact h.follows_number hR

theorem not_isBlank_of_skip_eq (h : skip cs = c :: rest) : isBlank c = false := by
  have hhead := List.head?_dropWhile_not isBlank cs
  rw [show cs.dropWhile isBlank = c :: rest from h] at hhead
  simpa using hhead

/-- What stands behind blanks in the first text stands there in the second. -/
theorem forth_skip (h : Parallel R) (hR : R cs ds) (hcs : skip cs = c :: rest) :
    ∃ rest', skip ds = c :: rest' ∧ R rest rest' :=
  h.forth (hcs ▸ h.blanks hR) (inline_of_not_isBlank (not_isBlank_of_skip_eq hcs))

theorem back_skip (h : Parallel R) (hR : R cs ds) (hclose : c ≠ '\x7d')
    (hds : skip ds = c :: rest) : ∃ rest', skip cs = c :: rest' :=
  h.back (hds ▸ h.blanks hR) ⟨not_isBlank_of_skip_eq hds, hclose⟩

/-- The first text ends where only the second closes an object. -/
theorem skip_eq_nil_of_close (h : Parallel R) (hR : R cs ds) (hds : skip ds = '\x7d' :: rest)
    (hother : ∀ rest', skip cs ≠ '\x7d' :: rest') : skip cs = [] := by
  cases hcs : skip cs with
  | nil => rfl
  | cons c behind =>
    obtain ⟨rest', hrest', -⟩ := h.forth_skip hR hcs
    rw [hds] at hrest'
    cases hrest'
    exact absurd hcs (hother behind)

/-- No object begins with nothing. -/
theorem follows_members_nil (fuel depth : Nat) {y : Except Stuck (Value × List Char)} :
    Follows R (do let (ms, rest) ← members fuel depth []; return (.object (settle ms), rest)) y := by
  cases fuel <;> exact follows_misspelt _ _ _

/-- **Reading goes on in parallel**, be it for a value, the items of a list or the members of
an object. -/
theorem readers (h : Parallel R) (fuel : Nat) :
    (∀ depth {cs ds : List Char}, R cs ds → Follows R (value fuel depth cs) (value fuel depth ds))
    ∧ (∀ depth {cs ds : List Char}, R cs ds →
      Follows R (items fuel depth cs) (items fuel depth ds))
    ∧ (∀ depth {cs ds : List Char}, R cs ds →
      Follows R (members fuel depth cs) (members fuel depth ds)) := by
  induction fuel with
  | zero => exact ⟨fun _ _ _ _ => follows_misspelt _ _ _, fun _ _ _ _ => follows_misspelt _ _ _,
      fun _ _ _ _ => follows_misspelt _ _ _⟩
  | succ fuel ih =>
    obtain ⟨hvalue, hitems, hmembers⟩ := ih
    refine ⟨fun depth cs ds hR => ?_, fun depth cs ds hR => ?_, fun depth cs ds hR => ?_⟩
    · rw [value.eq_def (fuel + 1) depth cs]
      dsimp only
      split
      · obtain ⟨ds', rfl, hR'⟩ := h.forth hR (by decide)
        exact (h.follows_quotedText hR').bind fun _ _ _ hrest => follows_ok hrest
      · next inside =>
        obtain ⟨inside', rfl, hR'⟩ := h.forth hR (by decide)
        rw [value]
        split_ifs
        · exact follows_excess _
        · split
          · next heq =>
            obtain ⟨rest', hrest', hrest⟩ := h.forth_skip hR' heq
            rw [hrest']
            exact follows_ok hrest
          · next hother =>
            split
            · next heq =>
              obtain ⟨rest, hrest⟩ := h.back_skip hR' (by decide) heq
              exact absurd hrest (hother rest)
            · exact (hitems _ (h.blanks hR')).bind fun _ _ _ hrest => follows_ok hrest
      · next inside =>
        obtain ⟨inside', rfl, hR'⟩ := h.forth hR (by decide)
        rw [value]
        split_ifs
        · exact follows_excess _
        · split
          · next heq =>
            obtain ⟨rest', hrest', hrest⟩ := h.forth_skip hR' heq
            rw [hrest']
            exact follows_ok hrest
          · next hother =>
            split
            · next heq =>
              rw [h.skip_eq_nil_of_close hR' heq hother]
              exact follows_members_nil _ _
            · exact (hmembers _ (h.blanks hR')).bind fun _ _ _ hrest => follows_ok hrest
      · exact h.follows_scalar hR fuel depth
    · rw [items.eq_def (fuel + 1) depth cs, items.eq_def (fuel + 1) depth ds]
      refine (hvalue depth hR).bind fun v afterValue afterValue' hafter => ?_
      dsimp only
      split
      · next heq =>
        obtain ⟨rest', hrest', hrest⟩ := h.forth_skip hafter heq
        rw [hrest']
        exact follows_ok hrest
      · next heq =>
        obtain ⟨rest', hrest', hrest⟩ := h.forth_skip hafter heq
        rw [hrest']
        exact (hitems _ (h.blanks hrest)).bind fun _ _ _ hbehind => follows_ok hbehind
      · exact follows_misspelt _ _ _
    · rw [members.eq_def (fuel + 1) depth cs]
      dsimp only
      split
      · obtain ⟨ds', rfl, hR'⟩ := h.forth hR (by decide)
        rw [members]
        refine (h.follows_quotedText hR').bind fun name afterName afterName' hname => ?_
        dsimp only
        split
        · next hcolon =>
          obtain ⟨afterColon', hcolon', hR''⟩ := h.forth_skip hname hcolon
          rw [hcolon']
          refine (hvalue depth (h.blanks hR'')).bind fun v afterValue afterValue' hafter => ?_
          dsimp only
          split
          · next heq =>
            obtain ⟨rest', hrest', hrest⟩ := h.forth_skip hafter heq
            rw [hrest']
            exact follows_ok hrest
          · next heq =>
            obtain ⟨rest', hrest', hrest⟩ := h.forth_skip hafter heq
            rw [hrest']
            exact (hmembers _ (h.blanks hrest)).bind fun _ _ _ hbehind => follows_ok hbehind
          · exact follows_misspelt _ _ _
        · exact follows_misspelt _ _ _
      · exact follows_misspelt _ _ _

end Parallel

end Reader

end CollectionTypes
