import CollectionTypes.Value.Name
import CollectionTypes.Value.Shown

/-!
# Fields

A field of a collection has a name, a kind read off its tag
(`FieldType.ofTag`), and flags: whether it may be empty and whether the
host platform owns it. A field on one side of a relation carries a `Link`
to the collection on the other side.
-/

namespace CollectionTypes

/-- **The kind of a field.** -/
inductive FieldType where
  | integer
  | decimal
  | boolean
  | json
  | string
  | unknown
  deriving DecidableEq, Repr, Inhabited

namespace FieldType

/-- The name of a kind. -/
def name : FieldType → String
  | integer => "integer"
  | decimal => "decimal"
  | boolean => "boolean"
  | json => "json"
  | string => "string"
  | unknown => "unknown"

/-- The tags with a kind of their own. -/
def tags : List (String × FieldType) :=
  [("integer", integer), ("bigInteger", integer), ("bigint", integer),
    ("float", decimal), ("decimal", decimal), ("boolean", boolean), ("json", json),
    ("csv", json), ("hash", string), ("string", string), ("text", string),
    ("timestamp", string), ("uuid", string)]

/-- The kind that a text as tag stands for; an unknown tag stands for
text. -/
def ofText (tag : String) : FieldType :=
  ((tags.find? fun t => t.1 == tag).map Prod.snd).getD string

/-- **The kind that a tag stands for.** A tag that is not present says
nothing; a list or an object cannot be a tag. -/
def ofTag (v : Value) : Except Misuse FieldType :=
  if v.truthy then
    match v with
    | .text tag => .ok (ofText tag)
    | .list _ => .error (.notName .list)
    | .object _ => .error (.notName .object)
    | _ => .ok string
  else .ok unknown

end FieldType

/-- **Which side of a relation a field is on.** -/
inductive Direction where
  /-- The field holds one item. -/
  | one
  /-- The field holds many items. -/
  | many
  deriving DecidableEq, Repr, Inhabited

namespace Direction

/-- The name of a direction. -/
def name : Direction → String
  | one => "one"
  | many => "many"

/-- The direction that a value names. -/
def ofValue? : Value → Option Direction
  | .text "one" => some one
  | .text "many" => some many
  | _ => none

end Direction

/-- The name of a primary key that nobody named. -/
def defaultPrimary : Value := .text "id"

/-- **What a field links to**: a collection, by one of its fields. -/
structure Link where
  direction : Direction
  /-- The collection on the other side; not present if unknown. -/
  related : Value
  /-- The field of the other side that a link goes by. -/
  foreignKey : Value := defaultPrimary
  deriving Inhabited

namespace Link

/-- Whether the collection on the other side is known. -/
def isResolved (l : Link) : Bool :=
  l.related.truthy

end Link

/-- No direction is called that. -/
structure BadDirection where
  value : Value

/-- The wording of the error. -/
def BadDirection.message (e : BadDirection) : String :=
  e.value.quoted ++ " is not a valid RelationDirection"

/-- A link from the members of an object. -/
def Link.ofMembers (ms : List (String × Value)) : Except BadDirection Link :=
  match Direction.ofValue? (Value.get ms "direction") with
  | some direction =>
    .ok ⟨direction, Value.get ms "related_collection",
      (Table.lookup "foreign_key" ms).getD defaultPrimary⟩
  | none => .error ⟨Value.get ms "direction"⟩

/-- **A field of a collection.** -/
structure Field where
  name : Name
  type : FieldType
  /-- The tag that the kind was read off. -/
  rawType : Value := .null
  /-- Whether the field may be empty. -/
  nullable : Bool := false
  /-- Whether the host platform owns the field. -/
  system : Bool := false
  relation : Option Link := none
  deriving Inhabited

end CollectionTypes
