import CollectionTypes.Schema.Field

/-!
# Collections

A collection is a named record type: its fields stand under the keys of
their names, in order of arrival. An `Index` holds the collections of a
schema in the same way.
-/

namespace CollectionTypes

/-- **A collection.** -/
structure Collection where
  name : Name
  /-- The name of the field that identifies an item. -/
  primary : Value := defaultPrimary
  /-- Whether there is just one item. -/
  singleton : Bool := false
  sortField : Value := .null
  note : Value := .null
  accountability : Value := .text "all"
  /-- Whether the host platform provides the collection. -/
  isSystem : Bool := false
  fields : Table Key Field := .empty

namespace Collection

/-- Whether some field is not owned by the host platform. -/
def hasCustomFields (c : Collection) : Bool :=
  c.fields.values.any fun f => !f.system

/-- The fields that the host platform does not own. -/
def customFields (c : Collection) : List Field :=
  c.fields.values.filter fun f => !f.system

/-- The field under a loosely typed name. -/
def field? (c : Collection) (v : Value) : Except Misuse (Option Field) := do
  match ← Name.ofPresent v with
  | some name => return c.fields.find? name.key
  | none => return none

/-- The collection with its fields changed. -/
def withFields (c : Collection) (f : Table Key Field → Table Key Field) : Collection :=
  { c with fields := f c.fields }

end Collection

/-- **The collections of a schema**, by the keys of their names. -/
abbrev Index := Table Key Collection

end CollectionTypes
