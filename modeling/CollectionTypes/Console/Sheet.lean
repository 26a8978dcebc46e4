import CollectionTypes.Text.Width

/-!
# Sheets of facts

A sheet shows facts in two columns, each a name and a value, under a
heading for either column and below a title in the middle. Every column is
as wide as its widest entry, with a blank at its sides.
-/

namespace CollectionTypes.Console

/-- **A sheet of facts.** -/
structure Sheet where
  title : String
  heading : String × String
  rows : List (String × String)

namespace Sheet

/-- The cells of a text. -/
def cellsOf (s : String) : Nat :=
  Text.width s.toList

/-- A text with blanks behind it, to take a number of cells. -/
def padded (n : Nat) (s : String) : String :=
  s ++ String.ofList (List.replicate (n - cellsOf s) ' ')

/-- The cells of the widest entry of a column. -/
def widest (column : String × String → String) (s : Sheet) : Nat :=
  ((s.heading :: s.rows).map fun r => cellsOf (column r)).foldl max 0

/-- A row as a line. -/
def line (s : Sheet) (row : String × String) : String :=
  "  " ++ padded (s.widest Prod.fst) row.1 ++ "   " ++ padded (s.widest Prod.snd) row.2
    ++ "  "

/-- How many cells a line takes. -/
def width (s : Sheet) : Nat :=
  s.widest Prod.fst + s.widest Prod.snd + 7

/-- The title with the blanks that put it in the middle. -/
def titleLine (s : Sheet) : String :=
  String.ofList (List.replicate ((s.width - cellsOf s.title) / 2) ' ') ++ s.title

/-- **The lines of a sheet.** -/
def lines (s : Sheet) : List String :=
  [s.titleLine, "", s.line s.heading,
    " " ++ String.ofList (List.replicate (s.width - 2) '─')]
    ++ s.rows.map s.line ++ [""]

/-- The text of a sheet. -/
def text (s : Sheet) : String :=
  String.join (s.lines.map (· ++ "\n"))

end Sheet

end CollectionTypes.Console
