import CollectionTypes.Text.Ranges

/-!
# Line ends

A file may end its lines with a carriage return, a line feed, or the one
behind the other. Reading a file as a text turns each of these into one
line feed.

Text that is shown line by line is broken at more characters than that
(`isLineBreak`); `lastLine` is what stands in the last of its lines.
-/

namespace CollectionTypes.Text

/-- **Every line end as one line feed.** -/
def unifyLineEnds : List Char → List Char
  | [] => []
  | '\r' :: '\n' :: rest => '\n' :: unifyLineEnds rest
  | c :: rest => (if c = '\r' then '\n' else c) :: unifyLineEnds rest

/-- A text without carriage returns stays as it is. -/
theorem unifyLineEnds_of_no_return {cs : List Char} (h : '\r' ∉ cs) :
    unifyLineEnds cs = cs := by
  fun_induction unifyLineEnds cs with
  | case1 => rfl
  | case2 rest ih => exact absurd (List.mem_cons_self ..) h
  | case3 c rest hne ih =>
    have hc : c ≠ '\r' := fun e => h (e ▸ List.mem_cons_self ..)
    rw [if_neg hc, ih (fun hm => h (List.mem_cons_of_mem _ hm))]

/-- The ranges of characters that break a line: line feed to carriage
return, three of the information separators, the next-line control, and
the separators of lines and of paragraphs. -/
def lineBreakRanges : List (Nat × Nat) :=
  [(10, 13), (28, 30), (133, 133), (8232, 8233)]

/-- Whether a character breaks a line. -/
def isLineBreak (c : Char) : Bool :=
  inRanges lineBreakRanges c

/-- A text without the break at its end. -/
def dropLastBreak (cs : List Char) : List Char :=
  match cs.reverse with
  | '\n' :: '\r' :: rest => rest.reverse
  | c :: rest => if isLineBreak c then rest.reverse else cs
  | [] => []

/-- **The last line of a text.** A break at the very end ends that line and
begins no other. -/
def lastLine (cs : List Char) : List Char :=
  ((dropLastBreak cs).reverse.takeWhile fun c => !isLineBreak c).reverse

end CollectionTypes.Text
