import CollectionTypes.Journal.Basic
import CollectionTypes.Naming.TypeName
import CollectionTypes.Schema.Flags
import CollectionTypes.Schema.Relation

/-!
# The index of a schema

A schema lists its collections either under their names or in a row, and
gives the fields of a collection inside its entry or, in a row of their
own, beside the collections. `Index.ofSchema` brings all of this into one
index. Listed collections come first, the last entry of a name counting;
they are followed by collections that the host platform provides and that
are known by their detached fields only.

A collection's fields are those of its entry and then the detached ones,
one for each name: the first place and the last description count
(`addField`). Its primary key is the one that its entry names, else the
first field marked as such, else the default.
-/

namespace CollectionTypes

/-- The entries of an object under their names, and the items of a list
under what they themselves give as a name. -/
def rows (nameKey : String) : Value → List (Value × Value)
  | .object ms => ms.map fun m => (.text m.1, m.2)
  | .list vs => vs.map fun v =>
      (match v.members? with
        | some ms => Value.get ms nameKey
        | none => .null, v)
  | _ => []

/-- **A field as a schema gives it.** -/
structure RawField where
  /-- The name that it stands under. -/
  key : Value
  members : List (String × Value)

namespace RawField

/-- The fields among rows; what is no object is passed over. -/
def ofValue (v : Value) : List RawField :=
  (rows "field" v).filterMap fun r => r.2.members?.map fun ms => ⟨r.1, ms⟩

/-- The name of the field: its own, else the one that it stands under. -/
def name (r : RawField) : Value :=
  (Value.get r.members "field").orElse r.key

/-- A member of what the schema says about the column of the field. -/
def column (r : RawField) (member : String) : Value :=
  match (Value.get r.members "schema").members? with
  | some ms => Value.get ms member
  | none => .null

/-- Whether the field may be empty: by its own word, else by its
column's. -/
def nullable (r : RawField) : Bool :=
  let own := Value.get r.members "nullable"
  if own.isNull then (r.column "is_nullable").truthy else own.truthy

/-- Whether the column is marked as the primary key. -/
def marksPrimary (r : RawField) : Bool :=
  (r.column "is_primary_key").truthy

/-- Whether the host platform owns the field: by the records, else by the
field's own meta data, else as it owns the collection. -/
def system (r : RawField) (flags : Flags) (owner name : Name) (ownerIsSystem : Bool) :
    Bool :=
  ((flags.system? owner name).or (systemFlag? (Value.get r.members "meta"))).getD
    ownerIsSystem

/-- **The field**, if it has a name. -/
def field? (r : RawField) (flags : Flags) (owner : Name) (ownerIsSystem : Bool) :
    Except Misuse (Option Field) := do
  match ← Name.ofPresent r.name with
  | none => return none
  | some name =>
    let rawType := Value.get r.members "type"
    let type ← FieldType.ofTag rawType
    return some {
      name
      type
      rawType
      nullable := r.nullable
      system := r.system flags owner name ownerIsSystem }

end RawField

/-! ## One collection -/

/-- The fields read so far and the primary key named so far. -/
abbrev FieldsSoFar := Table Key Field × Value

/-- **The fields with one more**: a known name keeps its place and is
described anew. The first field marked as the primary key is it, unless
one was named. -/
def addField (flags : Flags) (owner : Name) (ownerIsSystem : Bool) (b : FieldsSoFar)
    (r : RawField) : Except Misuse FieldsSoFar := do
  match ← r.field? flags owner ownerIsSystem with
  | none => return b
  | some f =>
    return (b.1.insert f.name.key f,
      if !b.2.truthy && r.marksPrimary then f.name.value else b.2)

/-- The first of some values that is not nothing. -/
def firstGiven (vs : List Value) : Value :=
  (vs.find? fun v => !v.isNull).getD .null

/-- What an entry says under `accountability`, else its meta data; only
who says nothing at all is accountable for everything. -/
def accountabilityOf (entry meta_ : List (String × Value)) : Value :=
  ((Table.lookup "accountability" entry).or (Table.lookup "accountability" meta_)).getD
    (.text "all")

/-- **A collection from its entry and its fields.** `mark` is how the
names of the host's collections begin. -/
def Collection.ofEntry (mark : Value) (flags : Flags) (name : Name)
    (entry : List (String × Value)) (raw : List RawField) : Except Misuse Collection := do
  let isSystem ← Naming.isMarkedOf mark name.value
  let (fields, primary) ←
    raw.foldlM (addField flags name isSystem) (Table.empty, Value.get entry "primary")
  let meta_ := ((Value.get entry "meta").members?).getD []
  return {
    name
    primary := primary.orElse defaultPrimary
    singleton :=
      (firstGiven [Value.get entry "singleton", Value.get meta_ "singleton"]).truthy
    sortField := firstGiven [Value.get entry "sortField", Value.get entry "sort_field",
      Value.get meta_ "sortField", Value.get meta_ "sort_field"]
    note := firstGiven [Value.get entry "note", Value.get meta_ "note"]
    accountability := accountabilityOf entry meta_
    isSystem
    fields }

/-! ## Detached fields -/

/-- The fields of one collection that stand beside the collections. -/
structure Detached where
  owner : Name
  fields : List RawField

/-- The detached fields with one more. -/
def addDetached (t : Table Key Detached) (r : RawField) :
    Except Misuse (Table Key Detached) := do
  match ← Name.ofPresent (Value.get r.members "collection") with
  | none => return t
  | some owner =>
    if t.contains owner.key then
      return t.modify owner.key fun d => { d with fields := d.fields ++ [r] }
    else return t.insert owner.key ⟨owner, [r]⟩

/-- **The detached fields of a schema**, by their collections. -/
def detachedFields (schema : List (String × Value)) : Except Misuse (Table Key Detached) :=
  (RawField.ofValue (Value.get schema "fields")).foldlM addDetached Table.empty

/-- The detached fields of one collection. -/
def detachedOf (t : Table Key Detached) (name : Name) : List RawField :=
  ((t.find? name.key).map Detached.fields).getD []

/-! ## All collections -/

/-- **What an entry among the collections is.** -/
inductive Listing where
  /-- No object. -/
  | other
  /-- An entry without a name. -/
  | nameless
  /-- A folder, which has no table behind it. -/
  | folder (name : Value)
  /-- A collection. -/
  | collection (name : Value) (entry : List (String × Value))

/-- Whether an entry is a folder: its table is said to be nothing, and
fields are not spoken of. -/
def isFolder (entry : List (String × Value)) : Bool :=
  ((Table.lookup "schema" entry).map Value.isNull).getD false
    && (Table.lookup "fields" entry).isNone

/-- What an entry is. -/
def Listing.ofValue (v : Value) : Listing :=
  match v.members? with
  | none => .other
  | some entry =>
    let name := Value.get entry "collection"
    if !name.truthy then .nameless
    else if isFolder entry then .folder name
    else .collection name entry

namespace Index

/-- The index with one listed collection. -/
def addListed (mark : Value) (flags : Flags) (detached : Table Key Detached) (ix : Index)
    (name : Value) (entry : List (String × Value)) : Except Misuse Index := do
  let name ← Name.ofValue name
  let raw := RawField.ofValue (Value.get entry "fields") ++ detachedOf detached name
  let c ← Collection.ofEntry mark flags name entry raw
  return ix.insert name.key c

/-- **The index with one entry of the schema.** -/
def addEntry (mark : Value) (flags : Flags) (detached : Table Key Detached) (ix : Index)
    (v : Value) : Traced Misuse Index := do
  match Listing.ofValue v with
  | .other => return ix
  | .nameless =>
    Traced.note .debug "Skipping collection entry without a name"
    return ix
  | .folder name =>
    Traced.note .debug ("Skipping folder collection " ++ name.shown)
    return ix
  | .collection name entry => addListed mark flags detached ix name entry

/-- **The index with a collection known by its detached fields**, unless
it is listed or not the host's. -/
def addUnlisted (mark : Value) (flags : Flags) (ix : Index) (d : Detached) :
    Traced Misuse Index := do
  if ix.contains d.owner.key then return ix
  else if ← Naming.isMarkedOf mark d.owner.value then
    Traced.note .debug
      ("Indexing built-in collection " ++ d.owner.value.shown ++ " from its fields")
    let c ← Collection.ofEntry mark flags d.owner [] d.fields
    return ix.insert d.owner.key c
  else return ix

/-- The collections of a schema that is an object. -/
def ofMembers (mark : Value) (flags : Flags) (schema : List (String × Value)) :
    Traced Misuse Index := do
  let detached ← detachedFields schema
  let entries := (rows "collection" (Value.get schema "collections")).map Prod.snd
  let listed ← entries.foldlM (addEntry mark flags detached) Table.empty
  let ix ← detached.values.foldlM (addUnlisted mark flags) listed
  Traced.note .debug ("Indexed " ++ toString ix.size ++ " collections")
  return ix

/-- **The collections of a schema.** What is no object has none. -/
def ofSchema (mark : Value) (flags : Flags) (schema : Value) : Traced Misuse Index :=
  match schema.members? with
  | none => pure Table.empty
  | some ms => ofMembers mark flags ms

end Index

end CollectionTypes
