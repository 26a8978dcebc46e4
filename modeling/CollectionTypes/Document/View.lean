import CollectionTypes.Journal.Basic
import CollectionTypes.Naming.TypeName
import CollectionTypes.Schema.Collection
import CollectionTypes.Settings.Basic
import CollectionTypes.Value.NameOrder

/-!
# What a document says about a collection

A `View` is what a document says about one collection. A collection of the
project is shown with all its fields. A collection that the host platform
provides is left out, unless the project added fields to it; then it is
shown with those fields alone, as an extension of the host's own type.

Fields without a link come first, in the order of the schema, and fields
with a link follow in the order of their names (`memberFields`).
`View.collisions` warns of collections whose types have one name.
-/

namespace CollectionTypes

/-- **The host's own type that a view extends**, and its local alias. -/
structure Extension where
  hostType : String
  localName : String
  deriving DecidableEq, Repr

/-- **What a document says about a collection.** -/
structure View where
  collection : Collection
  /-- The name of the collection. -/
  name : String
  /-- The name of its type. -/
  typeName : String
  /-- The member that lists its items. -/
  identifier : String
  fields : List Field
  base : Option Extension := none

/-- **Fields in the order of members.** -/
def memberFields (fs : List Field) : Except Misuse (List Field) := do
  let linked ← arrange Field.name (fs.filter fun f => f.relation.isSome)
  return fs.filter (fun f => f.relation.isNone) ++ linked

namespace View

/-- The view of a collection of the project. -/
def plain (c : Collection) (name : String) (fields : List Field) : View where
  collection := c
  name
  typeName := Naming.typeName name
  identifier := Naming.singular name
  fields

/-- The view of a collection of the host, to which the project added
fields. -/
def extending (mark : String) (c : Collection) (name : String) (fields : List Field) :
    View where
  collection := c
  name
  typeName := Naming.unmarkedTypeName mark name
  identifier := Naming.singular name
  fields
  base := some ⟨Naming.unmarkedTypeName mark name, Naming.aliasName name⟩

/-- What stands in the way of a type name when a name is no text. -/
def nameFault (mark : String) (name : Name) : Misuse :=
  .lacks name.kind (if mark = "" then "lower" else "startswith")

/-- **The view of a collection**, if the document has one. -/
def ofCollection? (s : Settings) (c : Collection) : Traced Misuse (Option View) := do
  if !c.isSystem then
    match c.name with
    | .text name => return some (plain c name (← memberFields c.fields.values))
    | name => Traced.silent (.error (nameFault "" name))
  else if c.hasCustomFields then
    match c.name with
    | .text name =>
      return some (extending s.systemPrefix c name (← memberFields c.customFields))
    | name => Traced.silent (.error (nameFault s.systemPrefix name))
  else
    Traced.note .debug
      ("Dropping built-in collection " ++ c.name.value.shown ++ " without project fields")
    return none

/-- The views of collections, in the order of the collections. -/
def ofCollections (s : Settings) : List Collection → Traced Misuse (List View)
  | [] => return []
  | c :: rest => do
    let view ← ofCollection? s c
    let views ← ofCollections s rest
    return view.toList ++ views

/-- The names of types, each with the first collection that has it. -/
abbrev Owners := Table String String

/-- The warnings about types that already belong to another collection. -/
def collisionsFrom (owners : Owners) : List View → List String
  | [] => []
  | v :: rest =>
    match owners.find? v.typeName with
    | none => collisionsFrom (owners.insert v.typeName v.name) rest
    | some other =>
      if other = v.name then collisionsFrom owners rest
      else
        ("Collections " ++ other ++ " and " ++ v.name ++ " both generate type "
          ++ v.typeName) :: collisionsFrom owners rest

/-- **The warnings about collections whose types have one name**, in the
order of the later one. -/
def collisions (views : List View) : List String :=
  collisionsFrom Table.empty views

/-- **The views of an index**, with the warnings about them. -/
def ofIndex (s : Settings) (ix : Index) : Traced Misuse (List View) := do
  let views ← ofCollections s ix.values
  Traced.notes ((collisions views).map fun text => ⟨.warning, text⟩)
  return views

/-- Views in the order of the names of their collections. -/
def arranged (views : List View) : List View :=
  views.mergeSort fun v w => decide (v.name ≤ w.name)

/-- Whether a view extends a type of the host. -/
def isExtension (v : View) : Bool :=
  v.base.isSome

end View

end CollectionTypes
