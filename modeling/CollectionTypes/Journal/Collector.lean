import CollectionTypes.Text.Format

/-!
# Collecting warnings

A `Collector` keeps the warnings that it is told, as they read once values
are put into them.
-/

namespace CollectionTypes

/-- **Warnings in the order in which they were told.** -/
structure Collector where
  messages : List String := []
  deriving DecidableEq, Repr

namespace Collector

/-- **The collector with one more warning.** -/
def warn (c : Collector) (s : String) (vs : List Value) :
    Except Text.FormatError Collector :=
  (Text.format s vs).map fun message => ⟨c.messages ++ [message]⟩

end Collector

end CollectionTypes
