/-!
# Classes of characters as ranges of code points

A class of characters is written as the list of its maximal ranges, both
ends included, in rising order. `inRanges` decides membership.
-/

namespace CollectionTypes.Text

/-- Whether a character lies in one of the ranges. -/
def inRanges (ranges : List (Nat × Nat)) (c : Char) : Bool :=
  ranges.any fun r => r.1 ≤ c.toNat && c.toNat ≤ r.2

end CollectionTypes.Text
