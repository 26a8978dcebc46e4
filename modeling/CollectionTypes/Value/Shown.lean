import CollectionTypes.Number.Shortest
import CollectionTypes.Text.Quoted
import CollectionTypes.Value.Basic

/-!
# Values inside a text

`shown` writes a value into running text, where a text stands bare;
`quoted` writes it as a part of a larger value, where a text stands
between quotes. The two differ on texts alone.

Neither has a limit. A value that was read from a text is within the limits
of `Value.read`, and so is every part of it; a value put together in another
way, with more digits or nested deeper than any that was read, is left out
of account.
-/

namespace CollectionTypes.Value

mutual

/-- **A value inside a larger one**: texts between quotes. -/
def quoted : Value → String
  | null => "None"
  | bool b => if b then "True" else "False"
  | int n => toString n
  | real x => x.shown
  | text s => Text.quoted s
  | list items => "[" ++ ", ".intercalate (quotedItems items) ++ "]"
  | object members => "\x7b" ++ ", ".intercalate (quotedMembers members) ++ "\x7d"

/-- The items of a list, each quoted. -/
def quotedItems : List Value → List String
  | [] => []
  | v :: rest => quoted v :: quotedItems rest

/-- The members of an object, each quoted. -/
def quotedMembers : List (String × Value) → List String
  | [] => []
  | (name, v) :: rest => (Text.quoted name ++ ": " ++ quoted v) :: quotedMembers rest

end

/-- **A value in running text**: a text stands bare. -/
def shown : Value → String
  | text s => s
  | v => v.quoted

end CollectionTypes.Value
