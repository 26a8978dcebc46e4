import CollectionTypes.Text.Blank
import CollectionTypes.Text.Width

/-!
# Lines that fit a screen

A line that is too wide for a screen goes on in the next one. It is cut
before a word, and a word that is too wide for every line is cut where the
line is full. `brokenLines` are the pieces; `wrapped` drops the blanks that
stick out at their ends.

What is not cut is a `Glyph`: a character together with the ones behind it
that have no cell of their own.
-/

namespace CollectionTypes.Text

/-! ## Glyphs -/

/-- **A character**, with those behind it that have no cell of their own. -/
structure Glyph where
  chars : List Char
  cells : Nat

/-- A glyph with more characters before it, which take some cells. -/
def Glyph.after (cs : List Char) (n : Nat) (g : Glyph) : Glyph :=
  ⟨cs ++ g.chars, n + g.cells⟩

/-- The glyphs of a text behind a character that takes some cells. The first
part is what still belongs to the glyph before. -/
def glyphsBehind (last : Option Char) : List Char → Glyph × List Glyph
  | [] => (⟨[], 0⟩, [])
  | [c] =>
    if c = joiner then (⟨[c], 0⟩, [])
    else if c = colouredForm then (⟨[c], widening last⟩, [])
    else if cells c = 0 then (⟨[c], 0⟩, [])
    else (⟨[], 0⟩, [⟨[c], cells c⟩])
  | c :: d :: cs =>
    if c = joiner then
      let (g, gs) := glyphsBehind last cs
      (g.after [c, d] 0, gs)
    else if c = colouredForm then
      let (g, gs) := glyphsBehind none (d :: cs)
      (g.after [c] (widening last), gs)
    else if cells c = 0 then
      let (g, gs) := glyphsBehind last (d :: cs)
      (g.after [c] 0, gs)
    else
      let (g, gs) := glyphsBehind (some c) (d :: cs)
      (⟨[], 0⟩, g.after [c] (cells c) :: gs)

/-- **The glyphs of a text.** What has no character before it is a glyph of
its own. -/
def glyphs (cs : List Char) : List Glyph :=
  (glyphsBehind none cs).1 :: (glyphsBehind none cs).2

/-! ## Lines -/

/-- The pieces of a text, cut behind every blank that has something other
than a blank behind it. -/
def blankEnded : List Char → List (List Char)
  | [] => []
  | c :: cs =>
    match blankEnded cs with
    | [] => [[c]]
    | piece :: rest =>
      if isBlank c && !piece.head?.any isBlank then [c] :: piece :: rest
      else (c :: piece) :: rest

/-- **The words of a line**, each with the blanks behind it. Blanks before
the first word belong to it. -/
def words (line : List Char) : List (List Char) :=
  match blankEnded line with
  | first :: second :: rest =>
    if first.all isBlank then (first ++ second) :: rest else first :: second :: rest
  | few => few

/-- The lines in which some glyphs are put one by one, behind what is in the
first line and takes some cells. -/
def filledLines (columns : Nat) (line : List Char) (taken : Nat) : List Glyph → List (List Char)
  | [] => [line]
  | g :: gs =>
    if columns < taken + g.cells then line :: filledLines columns g.chars g.cells gs
    else filledLines columns (line ++ g.chars) (taken + g.cells) gs

/-- A text without the blanks at its end. -/
def withoutEndBlanks (cs : List Char) : List Char :=
  (cs.reverse.dropWhile isBlank).reverse

/-- The lines of a word of its own: one, if it fits. -/
def linesOfWord (columns : Nat) (word : List Char) : List (List Char) :=
  if columns < width (withoutEndBlanks word) then filledLines columns [] 0 (glyphs word)
  else [word]

/-- The lines in which some words are put one by one, behind what is in the
first line and takes some cells. -/
def linesOfWords (columns : Nat) (line : List Char) (taken : Nat) :
    List (List Char) → List (List Char)
  | [] => [line]
  | word :: rest =>
    if taken + width (withoutEndBlanks word) ≤ columns then
      linesOfWords columns (line ++ word) (taken + width word) rest
    else
      let own := linesOfWord columns word
      let last := own.getLast?.getD []
      (if line.isEmpty then [] else [line]) ++ own.dropLast
        ++ linesOfWords columns last (width last) rest

/-- **A line cut where it is too wide.** -/
def brokenLines (columns : Nat) (line : List Char) : List (List Char) :=
  linesOfWords columns [] 0 (words line)

/-! ## What sticks out -/

/-- A line without blanks at its end, as far as it has too many characters. -/
def withoutExcess (columns : Nat) (line : List Char) : List Char :=
  let blanks := (line.reverse.takeWhile isBlank).length
  line.take (line.length - min blanks (line.length - columns))

/-- The glyphs that fit. A blank stands for the half of one. -/
def fitting (columns : Nat) : List Glyph → List Char
  | [] => []
  | g :: gs =>
    if g.cells ≤ columns then g.chars ++ fitting (columns - g.cells) gs
    else List.replicate columns ' '

/-- **The lines in which a screen shows a line.** -/
def wrapped (columns : Nat) (line : List Char) : List (List Char) :=
  (brokenLines columns line).map fun piece =>
    let piece := withoutExcess columns piece
    if width piece ≤ columns then piece else fitting columns (glyphs piece)

end CollectionTypes.Text
