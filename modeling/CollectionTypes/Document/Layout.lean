import CollectionTypes.Settings.Basic
import CollectionTypes.Text.Size
import CollectionTypes.Value.Misuse

/-!
# Lines

A document is a row of lines. A line may be indented and may be terminated,
and what an indentation and a terminator look like is a matter of the
`Layout` alone: the same lines can be laid out in another way.
-/

namespace CollectionTypes

/-- **What an indentation and a terminator look like.** -/
structure Layout where
  indentation : List Char
  terminator : List Char
  deriving DecidableEq, Repr

/-- **A line.** -/
structure Line where
  /-- Whether an indentation stands in front. -/
  indented : Bool := false
  core : List Char
  /-- Whether a terminator stands behind. -/
  terminated : Bool := false
  deriving DecidableEq, Repr

namespace Line

/-- The characters of a line, with its line feed. -/
def chars (l : Layout) (line : Line) : List Char :=
  (if line.indented then l.indentation else []) ++ line.core
    ++ (if line.terminated then l.terminator else []) ++ ['\n']

/-- A line without anything. -/
def blank : Line := { core := [] }

end Line

/-- **The characters of lines.** -/
def layOut (l : Layout) (lines : List Line) : List Char :=
  lines.flatMap (Line.chars l)

theorem layOut_append (l : Layout) (as bs : List Line) :
    layOut l (as ++ bs) = layOut l as ++ layOut l bs := by
  unfold layOut
  rw [List.flatMap_append]

/-- **An indentation of some width.** -/
def blanks (width : Nat) : Except Misuse (List Char) :=
  if width < Text.memoryLimit then .ok (List.replicate width ' ')
  else if width < Text.countLimit then .error .tooLarge
  else .error .tooWide

namespace Settings

/-- **The layout that settings ask for.** -/
def layout (s : Settings) : Except Misuse Layout :=
  if s.useTabs then .ok ⟨['\t'], s.terminator.toList⟩
  else (blanks s.spaces).map fun indentation => ⟨indentation, s.terminator.toList⟩

end Settings

/-- An indentation by a loosely typed width, unless tabs are asked for. -/
def indentationOf (spaces useTabs : Value) : Except Misuse String :=
  if useTabs.truthy then .ok "\t"
  else
    match spaces with
    | .bool b => .ok (if b then " " else "")
    | .int n =>
      if n < -(Text.countLimit : Int) then .error .tooWide
      else (blanks n.toNat).map String.ofList
    | v => .error (.notCount v.kind)

end CollectionTypes
