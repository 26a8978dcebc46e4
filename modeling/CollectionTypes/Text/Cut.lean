/-!
# Cutting texts

`cutAt` cuts characters at every occurrence of one of them, which is in none
of the pieces. `before` and `behind` are the two sides of the first
occurrence.
-/

namespace CollectionTypes.Text

/-- **The pieces between occurrences of a character.** -/
def cutAt (d : Char) : List Char → List (List Char)
  | [] => [[]]
  | c :: rest =>
    if c = d then [] :: cutAt d rest
    else
      match cutAt d rest with
      | first :: others => (c :: first) :: others
      | [] => [[c]]

/-- The characters before the first occurrence. -/
def before (d : Char) (cs : List Char) : List Char :=
  cs.takeWhile (· != d)

/-- The characters behind the first occurrence; none if there is none. -/
def behind (d : Char) (cs : List Char) : List Char :=
  (cs.dropWhile (· != d)).drop 1

/-- The characters behind the last occurrence; all if there is none. -/
def behindLast (d : Char) (cs : List Char) : List Char :=
  (before d cs.reverse).reverse

theorem cutAt_ne_nil (d : Char) (cs : List Char) : cutAt d cs ≠ [] := by
  cases cs with
  | nil => exact List.cons_ne_nil _ _
  | cons c rest =>
    unfold cutAt
    split
    · exact List.cons_ne_nil _ _
    · split <;> exact List.cons_ne_nil _ _

end CollectionTypes.Text
