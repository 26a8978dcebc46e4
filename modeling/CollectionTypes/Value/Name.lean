import CollectionTypes.Value.Misuse

/-!
# Names

A collection or a field is named by a text, but a loosely typed schema may
name one by a number or by `true`. A `Name` is a value that can stand as a
name. Two names mean the same thing when their *keys* agree: `1`, `1.0` and
`true` have one key, so that a table keyed by names holds one entry for
the three.
-/

namespace CollectionTypes

/-- **What a name means**: a text, or the number that it denotes. -/
inductive Key where
  | text (s : String)
  | number (q : Rat)
  | infinite (negative : Bool)
  | nan
  deriving DecidableEq, Repr

/-- **A value that can name something.** -/
inductive Name where
  | text (s : String)
  | flag (b : Bool)
  | int (n : Int)
  | real (x : Binary64)
  deriving DecidableEq, Repr, Inhabited

namespace Name

/-- A name as a value. -/
def value : Name → Value
  | text s => .text s
  | flag b => .bool b
  | int n => .int n
  | real x => .real x

/-- What a name means. -/
def key : Name → Key
  | text s => .text s
  | flag b => .number (if b then 1 else 0)
  | int n => .number n
  | real .nan => .nan
  | real (.infinite negative) => .infinite negative
  | real x => .number (x.ratio?.getD 0)

/-- The value as a name; nothing for a value that cannot be one. -/
def ofValue? : Value → Option Name
  | .text s => some (text s)
  | .bool b => some (flag b)
  | .int n => some (int n)
  | .real x => some (real x)
  | _ => none

/-- The value as a name. -/
def ofValue (v : Value) : Except Misuse Name :=
  match ofValue? v with
  | some name => .ok name
  | none => .error (.notName v.kind)

/-- The value as a name, or nothing when it does not count as present. -/
def ofPresent (v : Value) : Except Misuse (Option Name) :=
  if v.truthy then (ofValue v).map some else .ok none

/-- The text of a name, if it is one. -/
def text? : Name → Option String
  | text s => some s
  | _ => none

@[simp] theorem key_text (s : String) : (text s).key = .text s := rfl

/-- Whether a field of that name is the one that a primary-key entry means.
What is no number at all equals nothing. -/
def means (name : Name) (v : Value) : Bool :=
  match ofValue? v with
  | some other => name.key = other.key ∧ name.key ≠ .nan
  | none => false

theorem means_text (s t : String) : (text s).means (.text t) = decide (s = t) := by
  simp [means, ofValue?]

end Name

end CollectionTypes
