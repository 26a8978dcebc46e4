/-!
# Type expressions

The type of a member is an expression: a type given as it is, a reference
to an item of a collection – its key, or a part of it –, an array of
another expression, or an expression that may also be `null`. `chars`
writes an expression out. An item type with a space in it is put in
parentheses before the brackets of the array.
-/

namespace CollectionTypes

/-- **A type expression.** -/
inductive TypeExpr where
  /-- A type given as it is. -/
  | verbatim (s : String)
  /-- The key `key` of an item of type `typeName`, or a part of the item. -/
  | reference (typeName key : String)
  /-- Many of them. -/
  | array (item : TypeExpr)
  /-- Or nothing. -/
  | orNull (e : TypeExpr)
  deriving DecidableEq, Repr, Inhabited

namespace TypeExpr

/-- Characters in parentheses if there is a space among them. -/
def enclosed (cs : List Char) : List Char :=
  if ' ' ∈ cs then '(' :: cs ++ [')'] else cs

/-- The characters of a reference. -/
def referenceChars (typeName key : List Char) : List Char :=
  typeName ++ "['".toList ++ key ++ "'] | Partial<".toList ++ typeName ++ ['>']

/-- **The characters of an expression.** -/
def chars : TypeExpr → List Char
  | verbatim s => s.toList
  | reference typeName key => referenceChars typeName.toList key.toList
  | array item => enclosed item.chars ++ ['[', ']']
  | orNull e => e.chars ++ " | null".toList

/-- The text of an expression. -/
def text (e : TypeExpr) : String :=
  String.ofList e.chars

/-- The type of what nothing is known about. -/
def untyped : TypeExpr := verbatim "unknown"

theorem toList_text (e : TypeExpr) : e.text.toList = e.chars :=
  String.toList_ofList

theorem chars_orNull (e : TypeExpr) : (orNull e).chars = e.chars ++ " | null".toList := rfl

theorem chars_array (e : TypeExpr) : (array e).chars = enclosed e.chars ++ ['[', ']'] := rfl

end TypeExpr

end CollectionTypes
