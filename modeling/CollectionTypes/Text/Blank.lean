import CollectionTypes.Text.Ranges

/-!
# Blanks

The white space of every script: the ASCII blanks, the four information
separators U+001C to U+001F, the next-line control, and the spaces and
separators of the Unicode space categories. A zero-width space is not
among them.
-/

namespace CollectionTypes.Text

/-- The ranges of white space. -/
def blankRanges : List (Nat × Nat) :=
  [(9, 13), (28, 32), (133, 133), (160, 160), (5760, 5760), (8192, 8202),
    (8232, 8233), (8239, 8239), (8287, 8287), (12288, 12288)]

/-- Whether a character is white space. -/
def isBlank (c : Char) : Bool :=
  inRanges blankRanges c

/-- A text without the characters of a class at its two ends. -/
def trimEnds (p : Char → Bool) (cs : List Char) : List Char :=
  ((cs.dropWhile p).reverse.dropWhile p).reverse

/-- A text without the blanks at its two ends. -/
def trimBlanks (cs : List Char) : List Char :=
  trimEnds isBlank cs

end CollectionTypes.Text
