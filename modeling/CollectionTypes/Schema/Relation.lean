import CollectionTypes.Schema.Collection

/-!
# Relations between collections

A `Relation` is a record of the schema about two fields: one in the
collection on the *one* side, which lists many items, and one in the
collection on the *many* side, which holds one. The names of both sides
stand in its `Sides`; a record without them cannot be used, and a warning
says so.
-/

namespace CollectionTypes

/-- **Both sides of a relation**, loosely typed. -/
structure Sides where
  oneCollection : Value
  oneField : Value
  manyCollection : Value
  manyField : Value
  deriving Inhabited

/-- **A relation as the schema records it.** -/
structure Relation where
  field : Value
  collection : Value
  sides : Option Sides
  related : Value
  foreignKey : Value
  deriving Inhabited

namespace Relation

/-- Both sides, if the meta data are an object. -/
def sidesOf (v : Value) : Option Sides :=
  v.members?.map fun ms =>
    ⟨Value.get ms "one_collection", Value.get ms "one_field",
      Value.get ms "many_collection", Value.get ms "many_field"⟩

/-- A relation from the members of an object. -/
def ofMembers (ms : List (String × Value)) : Relation where
  field := (Value.get ms "field").orElse (.text "")
  collection := (Value.get ms "collection").orElse (.text "")
  sides := sidesOf (Value.get ms "meta")
  related := Value.get ms "related_collection"
  foreignKey :=
    match (Value.get ms "schema").members? with
    | some schema => Value.get schema "foreign_key_column"
    | none => .null

/-- **The relations of a schema.** What is no object is passed over. -/
def ofSchema (schema : Value) : Except Misuse (List Relation) :=
  match schema.members? with
  | none => .ok []
  | some ms => do
    let vs ← ((Value.get ms "relations").orElse (.list [])).elements
    return vs.filterMap fun v => v.members?.map ofMembers

/-- The warning about a relation without sides. -/
def complaint (r : Relation) : String :=
  "Relation on field '" ++ r.field.shown ++ "' in collection '" ++ r.collection.shown
    ++ "' has no meta. Maybe missing a relation inside directus_relations table."

end Relation

end CollectionTypes
