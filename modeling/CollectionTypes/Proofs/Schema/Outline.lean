import CollectionTypes.Naming.TypeName
import CollectionTypes.Schema.Field

/-!
# Outlines of schemas

A schema comes in two shapes. An *overview* lists all collections under their
names, each with its fields inside and with its flags on the entry. A
*snapshot* lists them in a row, with the flags in the meta data, and lists
the fields of all collections in a row beside them; of the host's collections
it knows the fields that the project added, and nothing else.

An `Outline` is what a schema says, whatever its shape. It has the names of
the collections and of their fields, all distinct and none of them empty, and
a primary key for each collection. `Outline.overview` and `Outline.snapshot`
write it down in either shape.
-/

namespace CollectionTypes

/-- A text, or nothing where there is none. -/
def Value.ofText? : Option String → Value
  | some s => .text s
  | none => .null

/-! ## What a schema says -/

/-- **What a schema says about a field.** -/
structure FieldOutline where
  name : String
  tag : Option String := none
  nullable : Bool := false
  /-- Whether the host platform owns the field. -/
  system : Bool := false
  name_ne : name ≠ "" := by decide

/-- **What a schema says about a collection.** -/
structure CollectionOutline where
  name : String
  fields : List FieldOutline
  /-- The name of the field that identifies an item. -/
  primary : String := "id"
  singleton : Bool := false
  note : Option String := none
  sortField : Option String := none
  accountability : Option String := some "all"
  name_ne : name ≠ "" := by decide
  distinct : (fields.map FieldOutline.name).Nodup := by decide
  primary_mem : primary ∈ fields.map FieldOutline.name := by decide

/-- **What a schema says about both sides of a relation.** -/
structure SidesOutline where
  oneCollection : Option String := none
  oneField : Option String := none
  manyCollection : Option String := none
  manyField : Option String := none

/-- **What a schema says about a relation.** -/
structure RelationOutline where
  field : Option String := none
  collection : Option String := none
  related : Option String := none
  foreignKey : Option String := none
  sides : Option SidesOutline := none

/-- **What a schema says.** -/
structure Outline where
  collections : List CollectionOutline
  relations : List RelationOutline := []
  distinct : (collections.map CollectionOutline.name).Nodup := by decide

/-! ## The fields and relations in writing -/

namespace FieldOutline

/-- The meta data of a field: the mark of the host, if it owns the field. -/
def metaData (f : FieldOutline) : Value :=
  .object (if f.system then [("system", .bool true)] else [])

/-- A field as it stands inside its collection. -/
def inside (f : FieldOutline) : String × Value :=
  (f.name, .object [("field", .text f.name), ("type", .ofText? f.tag),
    ("nullable", .bool f.nullable), ("meta", f.metaData)])

/-- A field as it stands beside the collections. -/
def beside (c : CollectionOutline) (f : FieldOutline) : Value :=
  .object [("collection", .text c.name), ("field", .text f.name), ("type", .ofText? f.tag),
    ("meta", f.metaData),
    ("schema", .object [("is_primary_key", .bool (f.name = c.primary)),
      ("is_nullable", .bool f.nullable)])]

end FieldOutline

/-- Both sides of a relation in writing. -/
def SidesOutline.toValue (s : SidesOutline) : Value :=
  .object [("one_collection", .ofText? s.oneCollection), ("one_field", .ofText? s.oneField),
    ("many_collection", .ofText? s.manyCollection), ("many_field", .ofText? s.manyField)]

/-- A relation in writing. -/
def RelationOutline.toValue (r : RelationOutline) : Value :=
  .object [("field", .ofText? r.field), ("collection", .ofText? r.collection),
    ("related_collection", .ofText? r.related),
    ("meta", (r.sides.map SidesOutline.toValue).getD .null),
    ("schema", .object [("foreign_key_column", .ofText? r.foreignKey)])]

/-! ## The collections in writing -/

namespace CollectionOutline

/-- Whether the host platform provides the collection. -/
def isHost (mark : String) (c : CollectionOutline) : Bool :=
  Naming.isMarked mark c.name

/-- The fields that the host platform does not own. -/
def ownFields (c : CollectionOutline) : List FieldOutline :=
  c.fields.filter fun f => !f.system

/-- A primary key is named by a text that is not empty. -/
theorem primary_ne (c : CollectionOutline) : c.primary ≠ "" := by
  obtain ⟨f, -, hf⟩ := List.mem_map.mp c.primary_mem
  exact hf ▸ f.name_ne

/-- The entry of a collection in an overview. -/
def overviewEntry (c : CollectionOutline) : List (String × Value) :=
  [("collection", .text c.name), ("primary", .text c.primary),
    ("singleton", .bool c.singleton), ("note", .ofText? c.note),
    ("sortField", .ofText? c.sortField), ("accountability", .ofText? c.accountability),
    ("fields", .object (c.fields.map FieldOutline.inside))]

/-- The entry of a collection in a snapshot. -/
def snapshotEntry (c : CollectionOutline) : List (String × Value) :=
  [("collection", .text c.name),
    ("meta", .object [("singleton", .bool c.singleton), ("note", .ofText? c.note),
      ("sort_field", .ofText? c.sortField), ("accountability", .ofText? c.accountability)]),
    ("schema", .object [("name", .text c.name)])]

/-- The fields of a collection that a snapshot knows. -/
def snapshotFields (mark : String) (c : CollectionOutline) : List FieldOutline :=
  if c.isHost mark then c.ownFields else c.fields

end CollectionOutline

namespace Outline

/-- The relations in writing. -/
def relationsValue (o : Outline) : Value :=
  .list (o.relations.map RelationOutline.toValue)

/-- **The outline as an overview.** -/
def overview (o : Outline) : Value :=
  .object [("collections", .object (o.collections.map fun c => (c.name, .object c.overviewEntry))),
    ("relations", o.relationsValue)]

/-- The collections that a snapshot lists. -/
def listed (mark : String) (o : Outline) : List CollectionOutline :=
  o.collections.filter fun c => !c.isHost mark

/-- **The outline as a snapshot**, with the mark of the host's names. -/
def snapshot (mark : String) (o : Outline) : Value :=
  .object [("collections", .list ((o.listed mark).map fun c => .object c.snapshotEntry)),
    ("fields", .list (o.collections.flatMap fun c =>
      (c.snapshotFields mark).map (FieldOutline.beside c))),
    ("relations", o.relationsValue)]

/-- **An outline fits a mark** if the host's collections are what they always
are: known by `id`, and of many items. -/
def Fits (mark : String) (o : Outline) : Prop :=
  ∀ c ∈ o.collections, c.isHost mark = true → c.primary = "id" ∧ c.singleton = false

/-- The outline of a blog. An article has an author, who is a user of the host
platform, and a comment has an article. The project gave users a nickname and
their articles, and left the host's files alone. -/
def blog : Outline where
  collections := [
    { name := "articles",
      fields := [{ name := "id", tag := some "integer" },
        { name := "author", tag := some "uuid", nullable := true }] },
    { name := "comments",
      fields := [{ name := "id", tag := some "integer" },
        { name := "article", tag := some "integer" }] },
    { name := "imprint", primary := "key", singleton := true,
      fields := [{ name := "text", tag := some "text" }, { name := "key", tag := some "uuid" }] },
    { name := "directus_users",
      fields := [{ name := "id", tag := some "uuid", system := true },
        { name := "articles", tag := some "alias" },
        { name := "nickname", tag := some "string" }] },
    { name := "directus_files", fields := [{ name := "id", tag := some "uuid", system := true }] }]
  relations := [
    { foreignKey := some "id",
      sides := some ⟨some "directus_users", some "articles", some "articles", some "author"⟩ },
    { sides := some ⟨some "articles", none, some "comments", some "article"⟩ },
    { field := some "cover", collection := some "articles" }]

theorem fits_blog : blog.Fits "directus_" := by
  unfold Fits
  decide +kernel

/-- Tags, of the project. -/
def tags : CollectionOutline where
  name := "tags"
  fields := [{ name := "id" }]

/-- Roles, which are the host's and which the project left alone. -/
def roles : CollectionOutline where
  name := "directus_roles"
  fields := [{ name := "id", system := true }]

/-- The blog with tags. -/
def blogTagged : Outline where
  collections := blog.collections ++ [tags]
  relations := blog.relations

/-- The blog with the roles of the host. -/
def blogWithRoles : Outline where
  collections := blog.collections ++ [roles]
  relations := blog.relations

/-- An outline with users of the project's own. Each is owned by a user of the
host, whose collection the project left alone. -/
def shadowed : Outline where
  collections := [
    { name := "users",
      fields := [{ name := "id", tag := some "integer" },
        { name := "owner", tag := some "uuid" }] },
    { name := "directus_users", fields := [{ name := "id", tag := some "uuid", system := true }] }]
  relations := [{ sides := some ⟨some "directus_users", none, some "users", some "owner"⟩ }]

/-- An outline with a name that begins with a digit, and one with nothing in front of a
plural ending. -/
def numbered : Outline where
  collections := [
    { name := "2fa", fields := [{ name := "id", tag := some "integer" }] },
    { name := "_s", fields := [{ name := "id", tag := some "integer" }] }]

end Outline

end CollectionTypes
