import CollectionTypes.Schema.Index

/-!
# Linking the two sides of a relation

A relation puts a link on the field of each of its sides. The field on
the one side gets a link to many items of the other collection, by that
collection's primary key; the field on the many side gets a link to one
item, by the relation's own key if it names one. Each side is looked for
by itself: a side that is not there has no bearing on the other. A field
that is both sides of a relation counts as the one side.

`Linking.resolve` works through the relations one after the other. Where a
name makes no sense it stops, and what was linked so far stays linked.
-/

namespace CollectionTypes

/-- **Where a field is**: the keys of its collection and of itself. -/
abbrev FieldPlace := Key × Key

namespace Index

/-- The collection under a loosely typed name. -/
def collection? (ix : Index) (v : Value) : Except Misuse (Option (Key × Collection)) := do
  match ← Name.ofPresent v with
  | none => return none
  | some name => return (ix.find? name.key).map fun c => (name.key, c)

/-- **Where the field under loosely typed names is**, if it is indexed. -/
def locate (ix : Index) (collection field : Value) : Except Misuse (Option FieldPlace) := do
  match ← ix.collection? collection with
  | none => return none
  | some (key, c) =>
    match ← Name.ofPresent field with
    | none => return none
    | some name => return if c.fields.contains name.key then some (key, name.key) else none

/-- The primary key of a collection; one that is not indexed has the
default. -/
def primaryOf (ix : Index) (collection : Value) : Except Misuse Value := do
  match ← ix.collection? collection with
  | none => return defaultPrimary
  | some (_, c) => return c.primary

/-- The index with a field changed. -/
def modifyField (ix : Index) (place : FieldPlace) (f : Field → Field) : Index :=
  ix.modify place.1 fun c => c.withFields fun t => t.modify place.2 f

/-- **The index with a link on a field.** -/
def attach (ix : Index) (place : FieldPlace) (l : Link) : Index :=
  ix.modifyField place fun f => { f with relation := some l }

/-- The field at a place. -/
def fieldAt? (ix : Index) (place : FieldPlace) : Option Field :=
  (ix.find? place.1).bind fun c => c.fields.find? place.2

/-- A change shows at its own place and nowhere else. -/
theorem fieldAt?_modifyField (ix : Index) (place place' : FieldPlace) (f : Field → Field) :
    (ix.modifyField place f).fieldAt? place'
      = if place = place' then (ix.fieldAt? place').map f else ix.fieldAt? place' := by
  unfold modifyField fieldAt?
  rw [Table.find?_modify]
  by_cases h1 : place.1 = place'.1
  · rw [if_pos h1]
    cases ix.find? place'.1 with
    | none => split <;> rfl
    | some c =>
      show (c.fields.modify place.2 f).find? place'.2 = _
      rw [Table.find?_modify]
      by_cases h2 : place.2 = place'.2
      · rw [if_pos h2, if_pos (Prod.ext h1 h2)]
        rfl
      · rw [if_neg h2, if_neg (fun h => h2 (congrArg Prod.snd h))]
        rfl
  · rw [if_neg h1, if_neg (fun h => h1 (congrArg Prod.fst h))]

end Index

/-- **How far linking has come.** -/
structure Linking where
  index : Index
  /-- How many links were put on fields. -/
  links : Nat
  /-- The warnings about relations without sides. -/
  warnings : List String
  /-- What stopped the work, if anything did. -/
  fault : Option Misuse

namespace Linking

/-- The link for the field on the one side. -/
def oneSide (ix : Index) (s : Sides) : Except Misuse (Option (FieldPlace × Link)) := do
  match ← ix.locate s.oneCollection s.oneField with
  | none => return none
  | some place =>
    return some (place, ⟨.many, s.manyCollection, ← ix.primaryOf s.manyCollection⟩)

/-- The link for the field on the many side, unless that is the field of
the one side. -/
def manySide (ix : Index) (r : Relation) (s : Sides) (one : Option FieldPlace) :
    Except Misuse (Option (FieldPlace × Link)) := do
  match ← ix.locate s.manyCollection s.manyField with
  | none => return none
  | some place =>
    -- a field that is both sides keeps the link of the one side
    if one = some place then return none
    else
      let key ← if r.foreignKey.truthy then pure r.foreignKey
        else ix.primaryOf s.oneCollection
      return some (place, ⟨.one, s.oneCollection, key⟩)

/-- The work with one link put on. -/
def put (w : Linking) : Option (FieldPlace × Link) → Linking
  | none => w
  | some (place, l) => { w with index := w.index.attach place l, links := w.links + 1 }

/-- The work stopped. -/
def stop (w : Linking) (m : Misuse) : Linking :=
  { w with fault := some m }

/-- **The work with both sides of a relation linked.** -/
def linkSides (w : Linking) (r : Relation) (s : Sides) : Linking :=
  match oneSide w.index s with
  | .error m => w.stop m
  | .ok one =>
    let w := w.put one
    match manySide w.index r s (one.map Prod.fst) with
    | .error m => w.stop m
    | .ok many => w.put many

/-- **The work with one more relation.** -/
def link (w : Linking) (r : Relation) : Linking :=
  if w.fault.isSome then w
  else
    match r.sides with
    | none => { w with warnings := w.warnings ++ [r.complaint] }
    | some s => w.linkSides r s

/-- The work before the first relation. -/
def start (ix : Index) : Linking := ⟨ix, 0, [], none⟩

/-- **The links that relations put on the fields of an index.** -/
def resolve (ix : Index) (rs : List Relation) : Linking :=
  rs.foldl link (start ix)

/-- What the work leaves in the journal when it comes to its end. -/
def closing (w : Linking) : List Entry :=
  if w.fault.isSome then []
  else [⟨.debug, "Resolved " ++ toString w.links ++ " relation links"⟩]

end Linking

end CollectionTypes
