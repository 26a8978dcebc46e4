/-!
# Member names

A member of a type is named bare where the name is an identifier, and
between apostrophes anywhere else, with the backslash and the apostrophe
escaped. One line break behind an identifier does not make it stand
between apostrophes.
-/

namespace CollectionTypes.Naming

/-- Whether an identifier can begin with a character. -/
def beginsIdentifier (c : Char) : Bool :=
  c.isAlpha || c == '_' || c == '$'

/-- Whether an identifier can go on with a character. -/
def continuesIdentifier (c : Char) : Bool :=
  c.isAlphanum || c == '_' || c == '$'

/-- **Whether characters form an identifier.** -/
def isIdentifier : List Char → Bool
  | [] => false
  | c :: rest => beginsIdentifier c && rest.all continuesIdentifier

/-- A name without one line break at its end. -/
def chomp (cs : List Char) : List Char :=
  if cs.getLast? = some '\n' then cs.dropLast else cs

/-- Whether a member name stands bare. -/
def standsBare (cs : List Char) : Bool :=
  isIdentifier (chomp cs)

/-- One character between apostrophes. -/
def escapedChar (c : Char) : List Char :=
  if c = '\\' ∨ c = '\'' then ['\\', c] else [c]

/-- The characters of a member name. -/
def memberChars (cs : List Char) : List Char :=
  if standsBare cs then cs else '\'' :: cs.flatMap escapedChar ++ ['\'']

/-- **A member name as it is written.** -/
def member (s : String) : String :=
  String.ofList (memberChars s.toList)

theorem toList_member (s : String) : (member s).toList = memberChars s.toList := by
  unfold member
  rw [String.toList_ofList]

theorem memberChars_of_standsBare {cs : List Char} (h : standsBare cs = true) :
    memberChars cs = cs := by
  rw [memberChars, if_pos h]

end CollectionTypes.Naming
