/-!
# The size of a text

Nothing can be said about a text with more characters than can be counted,
and a text with more characters than memory holds cannot be made.
-/

namespace CollectionTypes.Text

/-- The least number of characters that cannot be counted. -/
def countLimit : Nat := Nat.pow 2 63

/-- The least number of characters that no memory holds. -/
def memoryLimit : Nat := Nat.pow 2 30

end CollectionTypes.Text
