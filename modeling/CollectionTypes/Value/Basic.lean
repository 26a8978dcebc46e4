import CollectionTypes.Number.Binary64
import CollectionTypes.Table

/-!
# Loosely typed values

A schema, a settings file and a record of a field are read as values of
one loosely typed kind: `Value` has the six shapes of a JSON text, whole
numbers being told apart from numbers with a fraction. The members of an
object keep the order in which they were written.

Nothing here fails. `truthy` says whether a value counts as present,
`member?` reads a member of an object, and `Kind` names the shape of a
value in messages.
-/

namespace CollectionTypes

/-- **A loosely typed value.** -/
inductive Value where
  /-- Nothing. -/
  | null
  /-- Yes or no. -/
  | bool (b : Bool)
  /-- A whole number. -/
  | int (n : Int)
  /-- A number with a fraction or an exponent. -/
  | real (x : Binary64)
  /-- A text. -/
  | text (s : String)
  /-- Values in a row. -/
  | list (items : List Value)
  /-- Named values, in the order of writing. -/
  | object (members : List (String × Value))
  deriving Inhabited, BEq

/-- **The shape of a value**, as messages name it. -/
inductive Kind where
  | null
  | bool
  | int
  | real
  | text
  | list
  | object
  /-- A name that a template is not given. -/
  | undefined
  deriving DecidableEq, Repr, Inhabited

namespace Kind

/-- The name of a shape in messages. -/
def label : Kind → String
  | null => "NoneType"
  | bool => "bool"
  | int => "int"
  | real => "float"
  | text => "str"
  | list => "list"
  | object => "dict"
  | undefined => "Undefined"

end Kind

namespace Value

/-- The shape of a value. -/
def kind : Value → Kind
  | null => .null
  | bool _ => .bool
  | int _ => .int
  | real _ => .real
  | text _ => .text
  | list _ => .list
  | object _ => .object

/-- **Whether a value counts as present**: not nothing, not `false`, not a
zero, and not empty. -/
def truthy : Value → Bool
  | null => false
  | bool b => b
  | int n => n != 0
  | real x => !x.isZero
  | text s => s != ""
  | list items => !items.isEmpty
  | object members => !members.isEmpty

/-- A value if it counts as present, else another. -/
def orElse (v w : Value) : Value :=
  if v.truthy then v else w

/-- The members of an object; nothing for any other value. -/
def members? : Value → Option (List (String × Value))
  | object members => some members
  | _ => none

/-- The value under a name, or nothing. -/
def get (members : List (String × Value)) (name : String) : Value :=
  (Table.lookup name members).getD null

/-- Whether a value is nothing. -/
def isNull : Value → Bool
  | null => true
  | _ => false

@[simp] theorem truthy_text (s : String) : (text s).truthy = (s != "") := rfl

theorem orElse_of_truthy {v : Value} (h : v.truthy = true) (w : Value) :
    v.orElse w = v := by
  rw [orElse, if_pos h]

end Value

end CollectionTypes
