import CollectionTypes.Proofs.Document.Lines
import Mathlib.Data.List.Basic

/-!
# One document in two layouts

`Text.replaceAll` puts one text in place of every occurrence of another. Where
no line of a document is broken, a line feed with an indentation behind it is
found in front of the members and nowhere else: the other lines begin with
something else. So the text in a layout becomes the text in another layout
when the one indentation is put in place of the other behind every line feed
(`Document.layOut_replaced`).
-/

namespace CollectionTypes

namespace Text

/-! ## Putting one text in place of another -/

/-- The characters with a text in place of every occurrence of another. The
characters to be passed over belong to an occurrence already replaced. -/
def replaceFrom (old new : List Char) : Nat → List Char → List Char
  | _, [] => []
  | passed + 1, _ :: cs => replaceFrom old new passed cs
  | 0, c :: cs =>
    if old.isPrefixOf (c :: cs) then new ++ replaceFrom old new (old.length - 1) cs
    else c :: replaceFrom old new 0 cs

/-- **A text in place of every occurrence of another**, which is not empty;
the occurrences are looked for from the left. -/
def replaceAll (old new cs : List Char) : List Char :=
  replaceFrom old new 0 cs

section

variable {d : Char} {ds new : List Char}

theorem replaceAll_nil (old new : List Char) : replaceAll old new [] = [] := by
  unfold replaceAll
  rw [replaceFrom]

theorem replaceFrom_length (old new as cs : List Char) :
    replaceFrom old new as.length (as ++ cs) = replaceAll old new cs := by
  induction as with
  | nil => rfl
  | cons a as ih => exact ih

/-- An occurrence is replaced. -/
theorem replaceAll_occurrence (d : Char) (ds new cs : List Char) :
    replaceAll (d :: ds) new (d :: ds ++ cs) = new ++ replaceAll (d :: ds) new cs := by
  have hbegins : (d :: ds).isPrefixOf (d :: (ds ++ cs)) = true :=
    List.isPrefixOf_iff_prefix.mpr (List.prefix_append _ cs)
  unfold replaceAll
  rw [List.cons_append, replaceFrom, if_pos hbegins, List.length_cons, Nat.add_sub_cancel,
    replaceFrom_length]
  rfl

/-- Where no occurrence begins, a character stays. -/
theorem replaceAll_cons {c : Char} {cs : List Char} (h : ¬ d :: ds <+: c :: cs) :
    replaceAll (d :: ds) new (c :: cs) = c :: replaceAll (d :: ds) new cs := by
  unfold replaceAll
  rw [replaceFrom, if_neg fun hbegins => h (List.isPrefixOf_iff_prefix.mp hbegins)]

/-- Characters among which no occurrence can begin stay. -/
theorem replaceAll_append {as : List Char} (h : d ∉ as) (cs : List Char) :
    replaceAll (d :: ds) new (as ++ cs) = as ++ replaceAll (d :: ds) new cs := by
  induction as with
  | nil => rfl
  | cons a as ih =>
    rw [List.mem_cons, not_or] at h
    have hother : ¬ d :: ds <+: a :: (as ++ cs) := fun hbegins =>
      h.1 (List.cons_prefix_cons.mp hbegins).1
    rw [List.cons_append, replaceAll_cons hother, ih h.2]
    rfl

end

end Text

/-! ## Lines in two layouts -/

/-- **Behind every line feed**, the one indentation is put in place of the
other. -/
theorem layOut_replaced {l l' : Layout} {c : Char} {cs : List Char} {lines : List Line}
    (hindentation : l.indentation = c :: cs) (hterminator : l'.terminator = l.terminator)
    (hbreak : '\n' ∉ l.terminator) (hcore : ∀ line ∈ lines, '\n' ∉ line.core)
    (hother : ∀ line ∈ lines, line.indented = false →
      ∀ rest, (line.inside l ++ '\n' :: rest).head? ≠ some c) :
    Text.replaceAll ('\n' :: l.indentation) ('\n' :: l'.indentation) ('\n' :: layOut l lines)
      = '\n' :: layOut l' lines := by
  induction lines with
  | nil =>
    have hend : ¬ '\n' :: l.indentation <+: ['\n'] := by
      rw [hindentation, List.cons_prefix_cons]
      exact fun h => List.not_mem_nil (h.2.subset List.mem_cons_self)
    show Text.replaceAll _ _ ['\n'] = ['\n']
    rw [Text.replaceAll_cons hend, Text.replaceAll_nil]
  | cons line lines ih =>
    rw [List.forall_mem_cons] at hcore hother
    have hinside : '\n' ∉ line.inside l := by
      unfold Line.inside
      rw [List.mem_append, not_or]
      refine ⟨hcore.1, ?_⟩
      split
      · exact hbreak
      · exact List.not_mem_nil
    have hsame : line.inside l' = line.inside l := by
      unfold Line.inside
      rw [hterminator]
    have hrest := ih hcore.2 hother.2
    rw [layOut_cons, layOut_cons, hsame]
    cases hline : line.indented with
    | true =>
      have hoccurs := Text.replaceAll_occurrence '\n' l.indentation ('\n' :: l'.indentation)
        (line.inside l ++ '\n' :: layOut l lines)
      rw [if_pos rfl, if_pos rfl, ← List.cons_append, hoccurs,
        Text.replaceAll_append hinside, hrest]
      rfl
    | false =>
      have hnone : ¬ '\n' :: l.indentation
          <+: '\n' :: (line.inside l ++ '\n' :: layOut l lines) := by
        rw [List.cons_prefix_cons, hindentation]
        rintro ⟨-, rest, hstart⟩
        refine hother.1 hline (layOut l lines) ?_
        rw [← hstart]
        rfl
      rw [if_neg Bool.false_ne_true, if_neg Bool.false_ne_true, List.nil_append,
        List.nil_append, Text.replaceAll_cons hnone, Text.replaceAll_append hinside, hrest]

/-! ## Documents in two layouts -/

namespace Document

/-- What is not indented does not begin with a blank. -/
theorem head?_of_not_indented {d : Document} {line : Line} (h : line ∈ d.lines)
    (hline : line.indented = false) (l : Layout) (rest : List Char) :
    (line.inside l ++ '\n' :: rest).head? ≠ some ' ' := by
  have hhead : ∀ {c : Char} {cs : List Char}, line.core = c :: cs → c ≠ ' ' →
      (line.inside l ++ '\n' :: rest).head? ≠ some ' ' := by
    intro c cs hcore hc hsome
    unfold Line.inside at hsome
    rw [hcore] at hsome
    exact hc (Option.some.inj hsome)
  rcases mem_lines_iff.mp h with rfl | rfl | ⟨b, -, h⟩
  · exact hhead rfl (by decide)
  · exact fun hsome => absurd (Option.some.inj hsome) (by decide)
  · rcases Block.mem_lines_iff.mp h with rfl | ⟨m, -, rfl⟩ | rfl
    · exact hhead rfl (by decide)
    · cases hline
    · exact hhead rfl (by decide)

/-- **The text in another layout** is the text with the one indentation in
place of the other behind every line feed, if no line is broken and blanks
indent. -/
theorem layOut_lines_replaced {d : Document} (hd : d.Unbroken) {l l' : Layout}
    {cs : List Char} (hindentation : l.indentation = ' ' :: cs)
    (hterminator : l'.terminator = l.terminator) (hbreak : '\n' ∉ l.terminator) :
    Text.replaceAll ('\n' :: l.indentation) ('\n' :: l'.indentation) (layOut l d.lines)
      = layOut l' d.lines := by
  have hlines := layOut_replaced hindentation hterminator hbreak (fun _ h => hd.core h)
    fun _ h hline => head?_of_not_indented h hline l
  -- the first line is not indented, so no line feed has to stand in front
  have hfirst : ¬ '\n' :: l.indentation <+: '\n' :: layOut l d.lines := by
    rw [List.cons_prefix_cons, hindentation]
    rintro ⟨-, rest, hstart⟩
    have hsome : (layOut l d.lines).head? = some ' ' := by
      rw [← hstart]
      rfl
    unfold lines at hsome
    cases hsome
  rw [Text.replaceAll_cons hfirst] at hlines
  exact (List.cons.inj hlines).2

end Document

end CollectionTypes
