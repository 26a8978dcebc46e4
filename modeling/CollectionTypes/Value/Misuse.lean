import CollectionTypes.Text.Digit
import CollectionTypes.Value.Basic

/-!
# Misuse of a value

A loosely typed value can turn up where its shape makes no sense: a number
where a text is due, a list where a name is due. `Misuse` lists what can go
wrong in that way, and `Misuse.message` words it. `Value.elements` walks
through a value, or says that it cannot be walked through.
-/

namespace CollectionTypes

/-- **A value where its shape makes no sense.** -/
inductive Misuse where
  /-- The operation belongs to another shape. -/
  | lacks (kind : Kind) (operation : String)
  /-- A list or an object cannot be a name. -/
  | notName (kind : Kind)
  /-- Only texts, lists and objects can be walked through. -/
  | notIterable (kind : Kind)
  /-- A text was due. -/
  | notText (kind : Kind)
  /-- Two names without an order between them. -/
  | unordered (left right : Kind)
  /-- What a name is to start with must be a text. -/
  | notStart (kind : Kind)
  /-- A count was due. -/
  | notCount (kind : Kind)
  /-- An indentation too wide for any text. -/
  | tooWide
  /-- An indentation too large for any memory. -/
  | tooLarge
  /-- A path was due. -/
  | notPath (kind : Kind)
  /-- A nul character cannot be part of a path. -/
  | nulInPath
  /-- A whole number with too many digits to be written. -/
  | tooLong
  deriving DecidableEq, Repr

namespace Misuse

/-- The wording of a misuse. -/
def message : Misuse → String
  | lacks kind operation =>
    "'" ++ kind.label ++ "' object has no attribute '" ++ operation ++ "'"
  | notName kind => "unhashable type: '" ++ kind.label ++ "'"
  | notIterable kind => "'" ++ kind.label ++ "' object is not iterable"
  | notText kind => "expected string or bytes-like object, got '" ++ kind.label ++ "'"
  | unordered left right =>
    "'<' not supported between instances of '" ++ left.label ++ "' and '"
      ++ right.label ++ "'"
  | notStart kind =>
    "startswith first arg must be str or a tuple of str, not " ++ kind.label
  | notCount kind =>
    "can't multiply sequence by non-int of type '" ++ kind.label ++ "'"
  | tooWide => "cannot fit 'int' into an index-sized integer"
  | tooLarge => ""
  | notPath kind => "expected str, bytes or os.PathLike object, not " ++ kind.label
  | nulInPath => "embedded null byte"
  | tooLong => Text.tooLongToWrite

end Misuse

namespace Value

/-- **The elements of a value**: the items of a list, the names of an
object, the characters of a text. -/
def elements : Value → Except Misuse (List Value)
  | list items => .ok items
  | object members => .ok (members.map fun m => text m.1)
  | text s => .ok (s.toList.map fun c => text c.toString)
  | v => .error (.notIterable v.kind)

end Value

end CollectionTypes
