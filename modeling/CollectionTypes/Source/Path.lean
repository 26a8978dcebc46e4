import CollectionTypes.Text.Cut

/-!
# Paths

A path is cut at its slashes. Empty parts and parts that are one full stop
say nothing and are left out; two full stops stay, since what they mean
depends on the files. `Path.text` writes a path back in its plain form, and
`Path.suffix` is the ending of its last part. A path that is too long for the
system (`Path.isTooLong`) is still a path, but it is not followed.
-/

namespace CollectionTypes

/-- **A path**: the slashes that make it absolute, and its parts. -/
structure Path where
  /-- No slash, one, or two, before the first part. -/
  root : String
  /-- The parts that say something. -/
  parts : List String
  deriving DecidableEq, Repr

namespace Path

/-- The slashes that make a path absolute: exactly two stay two, any other
number is one. -/
def rootOf (cs : List Char) : String :=
  match (cs.takeWhile (· == '/')).length with
  | 0 => ""
  | 2 => "//"
  | _ => "/"

/-- The path that a text writes. -/
def ofString (s : String) : Path where
  root := rootOf s.toList
  parts := ((Text.cutAt '/' s.toList).filter fun p => p != [] && p != ['.']).map
    String.ofList

/-- **A path in its plain form.** -/
def text (p : Path) : String :=
  let s := p.root ++ "/".intercalate p.parts
  if s = "" then "." else s

/-- The last part; a path without parts has an empty one. -/
def name (p : Path) : String :=
  p.parts.getLast?.getD ""

/-- **The ending of the last part**, from its last full stop on. A full
stop at either end of the part begins no ending. -/
def suffix (p : Path) : List Char :=
  let ending := (p.name.toList.reverse.takeWhile (· != '.')).reverse
  if ending.isEmpty ∨ p.name.length ≤ ending.length + 1 then [] else '.' :: ending

/-- Whether the ending names JSON, in capitals or small letters. -/
def isJson (p : Path) : Bool :=
  p.suffix.map Char.toLower == ".json".toList

/-- Whether a nul character, which no path may hold, is in it. -/
def hasNul (p : Path) : Bool :=
  p.parts.any fun part => part.toList.contains '\x00'

/-- A length in bytes that a path has to stay below: the system ends it with
a byte of its own. -/
def limit : Nat := 4096

/-- Whether a path is too long to be followed. -/
def isTooLong (p : Path) : Bool :=
  limit ≤ p.text.utf8ByteSize

end Path

end CollectionTypes
