import CollectionTypes.Document.TypeExpr
import CollectionTypes.Naming.TypeName
import CollectionTypes.Schema.Collection
import CollectionTypes.Settings.Basic

/-!
# The type of a member

A field becomes a member of a type. The field that the primary key names
has the type of all keys, whatever else is known about it. Any other field
has the type of its kind or, on a side of a relation, refers to the
collection on the other side; and it may be `null` if the field may be
empty. A reference to a collection that the host platform provides needs
the host's own type, which the document has to import.
-/

namespace CollectionTypes

/-- **The type of a member**, and the host's own type that it mentions. -/
structure MemberType where
  expr : TypeExpr
  host : Option String := none
  deriving DecidableEq, Repr

/-- The type that a kind of field has. -/
def FieldType.expr : FieldType → TypeExpr
  | .integer => .verbatim "number"
  | .decimal => .verbatim "number"
  | .boolean => .verbatim "boolean"
  | .json => .untyped
  | .string => .verbatim "string"
  | .unknown => .untyped

namespace Link

/-- The name of the type of the other side, and whether the host provides
it. -/
def target (s : Settings) (related : Value) : Except Misuse (String × Bool) := do
  let isHost ← Naming.isMarkedOf (.text s.systemPrefix) related
  let mark := if isHost then s.systemPrefix else ""
  return (← Naming.typeNameOf (.text mark) related, isHost)

/-- **A reference to one item of the other side.** -/
def reference (s : Settings) (l : Link) : Except Misuse MemberType := do
  let (typeName, isHost) ← target s l.related
  return ⟨.reference typeName l.foreignKey.shown, if isHost then some typeName else none⟩

/-- **The type of a field with a link.** -/
def memberType (s : Settings) (l : Link) : Except Misuse MemberType :=
  if l.isResolved then
    match l.direction with
    | .one => l.reference s
    | .many => (l.reference s).map fun t => { t with expr := .array t.expr }
  else
    match l.direction with
    | .one => .ok ⟨.untyped, none⟩
    | .many => .ok ⟨.array .untyped, none⟩

end Link

namespace MemberType

/-- The type of every primary key. -/
def key (s : Settings) : MemberType :=
  ⟨.verbatim s.primaryKeyType, some s.primaryKeyType⟩

/-- The type, or nothing. -/
def orNull (t : MemberType) (nullable : Bool) : MemberType :=
  if nullable then { t with expr := .orNull t.expr } else t

/-- **The type of a member** by all that matters for it: whether it is the
primary key, its kind, its link, and whether it may be empty. -/
def ofParts (s : Settings) (isKey : Bool) (type : FieldType) (link : Option Link)
    (nullable : Bool) : Except Misuse MemberType :=
  if isKey then .ok (key s)
  else
    match link with
    | none => .ok (orNull ⟨type.expr, none⟩ nullable)
    | some l => (l.memberType s).map fun t => t.orNull nullable

end MemberType

/-- **The type of a field** in a collection with a primary key. -/
def Field.memberType (s : Settings) (primary : Value) (f : Field) :
    Except Misuse MemberType :=
  MemberType.ofParts s (f.name.means primary) f.type f.relation f.nullable

end CollectionTypes
