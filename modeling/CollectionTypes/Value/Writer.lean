import CollectionTypes.Number.Shortest
import CollectionTypes.Text.Digit
import CollectionTypes.Text.Quoted
import CollectionTypes.Value.Basic

/-!
# Writing a value as a JSON text

`Value.write` writes a value over several lines: each item of a list and
each member of an object stands on a line of its own, two spaces further
in than what holds it. Inside a text the quote, the backslash and the
control characters are escaped; every other character stands as it is.

What can be written has a limit: the digits of a whole number
(`Value.isWritable`).
-/

namespace CollectionTypes

namespace Writer

/-- One character inside a text. -/
def escaped (c : Char) : List Char :=
  if c = '"' then ['\\', '"']
  else if c = '\\' then ['\\', '\\']
  else if c = '\n' then ['\\', 'n']
  else if c = '\r' then ['\\', 'r']
  else if c = '\t' then ['\\', 't']
  else if c = '\x0c' then ['\\', 'f']
  else if c = '\x08' then ['\\', 'b']
  else if c.toNat < 0x20 then '\\' :: 'u' :: Text.hexPadded 4 c.toNat
  else [c]

/-- A text between double quotes. -/
def text (s : String) : List Char :=
  '"' :: s.toList.flatMap escaped ++ ['"']

/-- A number with a fraction. -/
def real : Binary64 → List Char
  | .nan => "NaN".toList
  | .infinite negative => if negative then "-Infinity".toList else "Infinity".toList
  | x => x.shown.toList

/-- The start of a line at a depth. -/
def newLine (depth : Nat) : List Char :=
  '\n' :: List.replicate (2 * depth) ' '

mutual

/-- A value at a depth. -/
def value (depth : Nat) : Value → List Char
  | .null => "null".toList
  | .bool b => if b then "true".toList else "false".toList
  | .int n => (toString n).toList
  | .real x => real x
  | .text s => text s
  | .list [] => ['[', ']']
  | .list (v :: rest) =>
    '[' :: newLine (depth + 1) ++ value (depth + 1) v ++ items (depth + 1) rest
      ++ newLine depth ++ [']']
  | .object [] => ['\x7b', '\x7d']
  | .object ((name, v) :: rest) =>
    '\x7b' :: newLine (depth + 1) ++ text name ++ [':', ' '] ++ value (depth + 1) v
      ++ members (depth + 1) rest ++ newLine depth ++ ['\x7d']

/-- The items behind the first, each behind a comma. -/
def items (depth : Nat) : List Value → List Char
  | [] => []
  | v :: rest => ',' :: newLine depth ++ value depth v ++ items depth rest

/-- The members behind the first, each behind a comma. -/
def members (depth : Nat) : List (String × Value) → List Char
  | [] => []
  | (name, v) :: rest =>
    ',' :: newLine depth ++ text name ++ [':', ' '] ++ value depth v
      ++ members depth rest

end

end Writer

namespace Value

mutual

/-- **Whether a value can be written**: no whole number in it has too many
digits. -/
def isWritable : Value → Bool
  | .int n => (Nat.toDigits 10 n.natAbs).length ≤ Text.maxDigits
  | .list items => areWritable items
  | .object members => membersAreWritable members
  | _ => true

/-- Whether all items can be written. -/
def areWritable : List Value → Bool
  | [] => true
  | v :: rest => v.isWritable && areWritable rest

/-- Whether the values of all members can be written. -/
def membersAreWritable : List (String × Value) → Bool
  | [] => true
  | (_, v) :: rest => v.isWritable && membersAreWritable rest

end

/-- **Writing a value as a text.** -/
def write (v : Value) : String :=
  String.ofList (Writer.value 0 v)

end Value

end CollectionTypes
