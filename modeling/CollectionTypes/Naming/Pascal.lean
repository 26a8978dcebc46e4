import CollectionTypes.Text.Blank
import CollectionTypes.Text.Upper

/-!
# Type names out of words

A name is cut into words at runs of blanks, underscores and hyphens. Its
type name is the words put together, each with its first character in
upper case and the capitals inside it kept (`pascal`).

One pass suffices: it need only remember whether the next character
begins a word. A separator in the input therefore makes the two sides
independent (`pascalFrom_append_separator`).
-/

namespace CollectionTypes.Naming

/-- Whether a character stands between words. -/
def isSeparator (c : Char) : Bool :=
  Text.isBlank c || c == '_' || c == '-'

/-- The words put together; `start` says whether the next character begins
a word. -/
def pascalFrom (start : Bool) : List Char → List Char
  | [] => []
  | c :: rest =>
    if isSeparator c then pascalFrom true rest
    else (if start then Text.upper c else [c]) ++ pascalFrom false rest

/-- **The words of a name put together**, each beginning in upper case. -/
def pascal (s : String) : String :=
  String.ofList (pascalFrom true s.toList)

theorem pascalFrom_separator {c : Char} (h : isSeparator c = true) (start : Bool)
    (rest : List Char) : pascalFrom start (c :: rest) = pascalFrom true rest := by
  rw [pascalFrom, if_pos h]

theorem pascalFrom_word {c : Char} (h : isSeparator c = false) (start : Bool)
    (rest : List Char) :
    pascalFrom start (c :: rest)
      = (if start then Text.upper c else [c]) ++ pascalFrom false rest := by
  rw [pascalFrom, if_neg (by rw [h]; exact Bool.false_ne_true)]

/-- **A separator makes its two sides independent.** -/
theorem pascalFrom_append_separator {c : Char} (h : isSeparator c = true)
    (start : Bool) (a b : List Char) :
    pascalFrom start (a ++ c :: b) = pascalFrom start a ++ pascalFrom true b := by
  induction a generalizing start with
  | nil =>
    show pascalFrom start (c :: b) = pascalFrom true b
    rw [pascalFrom_separator h]
  | cons d a ih =>
    rw [List.cons_append]
    by_cases hd : isSeparator d = true
    · rw [pascalFrom_separator hd, pascalFrom_separator hd, ih]
    · have hd' : isSeparator d = false := Bool.not_eq_true _ ▸ hd
      rw [pascalFrom_word hd', pascalFrom_word hd', ih, List.append_assoc]

/-- The characters of the words put together. -/
theorem toList_pascal (s : String) : (pascal s).toList = pascalFrom true s.toList := by
  unfold pascal
  rw [String.toList_ofList]

end CollectionTypes.Naming
