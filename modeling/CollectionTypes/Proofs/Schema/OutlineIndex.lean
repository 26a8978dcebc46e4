import CollectionTypes.Proofs.Schema.TextLinks
import CollectionTypes.Schema.Index
import Mathlib.Data.List.Nodup

/-!
# Outlines indexed

Indexing an outline cannot fail, whether it is written as an overview or as a
snapshot, and the two indexes are told here collection by collection
(`Outline.index_overview`, `Outline.index_snapshot`). They differ in the
host's collections, of which a snapshot knows the fields that the project
added and nothing else; in the project's collections they do not differ.
-/

namespace CollectionTypes

open Outcome

/-! ## Fields -/

namespace FieldOutline

/-- The kind of the field. -/
def kind (f : FieldOutline) : FieldType :=
  match f.tag with
  | some tag => if tag = "" then .unknown else .ofText tag
  | none => .unknown

/-- **The field in an index.** -/
def field (f : FieldOutline) : Field where
  name := .text f.name
  type := f.kind
  rawType := .ofText? f.tag
  nullable := f.nullable
  system := f.system

theorem ofTag_tag (f : FieldOutline) : FieldType.ofTag (.ofText? f.tag) = .ok f.kind := by
  unfold kind FieldType.ofTag
  cases f.tag with
  | none => rfl
  | some tag =>
    show (if (tag != "") = true then Except.ok (FieldType.ofText tag) else .ok .unknown)
      = .ok (if tag = "" then .unknown else .ofText tag)
    by_cases h : tag = ""
    · rw [if_pos h, h]
      rfl
    · rw [if_neg h, if_pos (bne_iff_ne.mpr h)]

/-- The field as it is read inside its collection. -/
def rawInside (f : FieldOutline) : RawField :=
  ⟨.text f.name, [("field", .text f.name), ("type", .ofText? f.tag),
    ("nullable", .bool f.nullable), ("meta", f.metaData)]⟩

/-- The field as it is read beside the collections. -/
def rawBeside (c : CollectionOutline) (f : FieldOutline) : RawField :=
  ⟨.text f.name, [("collection", .text c.name), ("field", .text f.name),
    ("type", .ofText? f.tag), ("meta", f.metaData),
    ("schema", .object [("is_primary_key", .bool (f.name = c.primary)),
      ("is_nullable", .bool f.nullable)])]⟩

theorem systemFlag?_metaData (f : FieldOutline) : systemFlag? f.metaData = some f.system := by
  unfold metaData
  cases f.system <;> rfl

theorem field?_of_members {r : RawField} {f : FieldOutline} {owner : Name} {ownerIsSystem : Bool}
    (hname : Value.get r.members "field" = .text f.name)
    (htype : Value.get r.members "type" = .ofText? f.tag)
    (hmeta : Value.get r.members "meta" = f.metaData) (hnullable : r.nullable = f.nullable) :
    r.field? Table.empty owner ownerIsSystem = .ok (some f.field) := by
  have hpresent : Name.ofPresent r.name = .ok (some (.text f.name)) := by
    have htruthy : (Value.text f.name).truthy = true := bne_iff_ne.mpr f.name_ne
    unfold RawField.name
    rw [hname, Value.orElse_of_truthy htruthy, Name.ofPresent_text f.name_ne]
  have hsystem : r.system Table.empty owner (.text f.name) ownerIsSystem = f.system := by
    unfold RawField.system
    rw [hmeta, f.systemFlag?_metaData]
    rfl
  unfold RawField.field?
  rw [hpresent]
  show (do
    let type ← FieldType.ofTag (Value.get r.members "type")
    pure (some (Field.mk (.text f.name) type (Value.get r.members "type") r.nullable
      (r.system Table.empty owner (.text f.name) ownerIsSystem) none))) = _
  rw [htype, f.ofTag_tag, hnullable, hsystem]
  rfl

theorem field?_rawInside (f : FieldOutline) (owner : Name) (ownerIsSystem : Bool) :
    f.rawInside.field? Table.empty owner ownerIsSystem = .ok (some f.field) :=
  field?_of_members rfl rfl rfl rfl

theorem field?_rawBeside (c : CollectionOutline) (f : FieldOutline) (owner : Name)
    (ownerIsSystem : Bool) :
    (f.rawBeside c).field? Table.empty owner ownerIsSystem = .ok (some f.field) :=
  field?_of_members rfl rfl rfl rfl

end FieldOutline

/-! ## The fields of a collection -/

/-- The fields in an index, under their names. -/
def fieldTable (fs : List FieldOutline) : Table Key Field :=
  fs.foldl (fun t f => t.insert (.text f.name) f.field) Table.empty

theorem entries_fieldTable {fs : List FieldOutline} (hd : (fs.map FieldOutline.name).Nodup) :
    (fieldTable fs).entries = fs.map fun f => (.text f.name, f.field) := by
  have hkeys := List.Nodup.map (f := Key.text) (fun _ _ h => Key.text.inj h) hd
  rw [List.map_map] at hkeys
  exact Table.entries_foldl_insert (t := Table.empty) hkeys

/-- The primary key that fields mark, unless there is one. -/
def markedPrimary (primary : String) (given : Value) (fs : List FieldOutline) : Value :=
  fs.foldl (fun v f => if !v.truthy && decide (f.name = primary) then .text f.name else v) given

theorem markedPrimary_of_truthy {primary : String} {given : Value} (h : given.truthy = true)
    (fs : List FieldOutline) : markedPrimary primary given fs = given := by
  induction fs with
  | nil => rfl
  | cons f fs ih =>
    unfold markedPrimary at ih ⊢
    rw [List.foldl_cons, h]
    exact ih

/-- The field that is the primary key is found. -/
theorem markedPrimary_of_mem {primary : String} {given : Value} {fs : List FieldOutline}
    (hgiven : given.truthy = false) :
    markedPrimary primary given fs
      = if primary ∈ fs.map FieldOutline.name then .text primary else given := by
  induction fs with
  | nil => rfl
  | cons f fs ih =>
    have hstep : markedPrimary primary given (f :: fs)
        = markedPrimary primary (if f.name = primary then .text f.name else given) fs := by
      unfold markedPrimary
      rw [List.foldl_cons, hgiven]
      simp only [Bool.not_false, Bool.true_and, decide_eq_true_eq]
    rw [hstep, List.map_cons]
    -- once a field is marked, no later one is asked
    by_cases h : f.name = primary
    · have htruthy : (Value.text f.name).truthy = true := bne_iff_ne.mpr f.name_ne
      rw [if_pos h, markedPrimary_of_truthy htruthy, if_pos (h ▸ List.mem_cons_self), h]
    · rw [if_neg h, ih]
      have hmem : primary ∈ f.name :: fs.map FieldOutline.name
          ↔ primary ∈ fs.map FieldOutline.name := by
        rw [List.mem_cons, or_iff_right (Ne.symm h)]
      rw [if_congr hmem rfl rfl]

/-- Fields inside a collection are read one after the other. -/
theorem foldlM_addField_inside (owner : Name) (ownerIsSystem : Bool) {given : Value}
    (h : given.truthy = true) (fs : List FieldOutline) (t : Table Key Field) :
    (fs.map FieldOutline.rawInside).foldlM (addField Table.empty owner ownerIsSystem) (t, given)
      = .ok (fs.foldl (fun t f => t.insert (.text f.name) f.field) t, given) := by
  induction fs generalizing t with
  | nil => rfl
  | cons f fs ih =>
    have hstep : addField Table.empty owner ownerIsSystem (t, given) f.rawInside
        = .ok (t.insert (.text f.name) f.field, given) := by
      unfold addField
      rw [f.field?_rawInside]
      show Except.ok (t.insert (.text f.name) f.field, if !given.truthy && _ then _ else given) = _
      rw [h]
      rfl
    rw [List.map_cons, List.foldlM_cons, hstep]
    exact ih _

/-- Fields beside the collections are read one after the other, and the first
one marked as the primary key is it. -/
theorem foldlM_addField_beside (c : CollectionOutline) (owner : Name) (ownerIsSystem : Bool)
    (fs : List FieldOutline) (b : FieldsSoFar) :
    (fs.map (FieldOutline.rawBeside c)).foldlM (addField Table.empty owner ownerIsSystem) b
      = .ok (fs.foldl (fun t f => t.insert (.text f.name) f.field) b.1,
          markedPrimary c.primary b.2 fs) := by
  induction fs generalizing b with
  | nil => rfl
  | cons f fs ih =>
    have hstep : addField Table.empty owner ownerIsSystem b (f.rawBeside c)
        = .ok (b.1.insert (.text f.name) f.field,
            if !b.2.truthy && decide (f.name = c.primary) then .text f.name else b.2) := by
      unfold addField
      rw [f.field?_rawBeside]
      rfl
    rw [List.map_cons, List.foldlM_cons, hstep]
    exact ih _

/-! ## Collections -/

namespace CollectionOutline

variable {mark : String}

/-- **The collection in an index**, with all that is known about it. -/
def collection (mark : String) (c : CollectionOutline) : Collection where
  name := .text c.name
  primary := .text c.primary
  singleton := c.singleton
  sortField := .ofText? c.sortField
  note := .ofText? c.note
  accountability := .ofText? c.accountability
  isSystem := c.isHost mark
  fields := fieldTable c.fields

/-- **A collection of the host** as far as a snapshot knows it. -/
def recovered (c : CollectionOutline) : Collection where
  name := .text c.name
  isSystem := true
  fields := fieldTable c.ownFields

theorem ofValue_inside (fs : List FieldOutline) :
    RawField.ofValue (.object (fs.map FieldOutline.inside)) = fs.map FieldOutline.rawInside := by
  unfold RawField.ofValue rows
  dsimp only
  rw [List.map_map, List.filterMap_map]
  exact congrFun List.filterMap_eq_map fs

theorem ofValue_beside (c : CollectionOutline) (fs : List FieldOutline) :
    RawField.ofValue (.list (fs.map (FieldOutline.beside c)))
      = fs.map (FieldOutline.rawBeside c) := by
  unfold RawField.ofValue rows
  dsimp only
  rw [List.map_map, List.filterMap_map]
  exact congrFun List.filterMap_eq_map fs

theorem isMarkedOf_name (mark : String) (c : CollectionOutline) :
    Naming.isMarkedOf (.text mark) (.text c.name) = .ok (c.isHost mark) :=
  Naming.isMarkedOf_text mark c.name

/-- **A collection comes out of an overview** with all that is known about
it. -/
theorem ofEntry_overview (mark : String) (c : CollectionOutline) :
    Collection.ofEntry (.text mark) Table.empty (.text c.name) c.overviewEntry
        (c.fields.map FieldOutline.rawInside)
      = .ok (c.collection mark) := by
  have hgiven : (Value.get c.overviewEntry "primary").truthy = true :=
    bne_iff_ne.mpr c.primary_ne
  have hfields := foldlM_addField_inside (.text c.name) (c.isHost mark) hgiven c.fields
    Table.empty
  have hprimary : (Value.text c.primary).orElse defaultPrimary = .text c.primary :=
    Value.orElse_of_truthy hgiven _
  have hsort : firstGiven [.ofText? c.sortField, .null, .null, .null] = .ofText? c.sortField := by
    cases c.sortField <;> rfl
  have hnote : firstGiven [.ofText? c.note, .null] = .ofText? c.note := by
    cases c.note <;> rfl
  unfold Collection.ofEntry collection
  refine bind_ok_iff.mpr ⟨_, c.isMarkedOf_name mark, bind_ok_iff.mpr ⟨_, hfields, ?_⟩⟩
  rw [← hprimary, ← hsort, ← hnote]
  rfl

/-- **A collection of the project comes out of a snapshot** with all that is
known about it. -/
theorem ofEntry_snapshot (mark : String) (c : CollectionOutline) :
    Collection.ofEntry (.text mark) Table.empty (.text c.name) c.snapshotEntry
        (c.fields.map (FieldOutline.rawBeside c))
      = .ok (c.collection mark) := by
  have hfields := foldlM_addField_beside c (.text c.name) (c.isHost mark) c.fields
    (Table.empty, Value.get c.snapshotEntry "primary")
  rw [markedPrimary_of_mem rfl, if_pos c.primary_mem] at hfields
  have hpresent : (Value.text c.primary).truthy = true := bne_iff_ne.mpr c.primary_ne
  have hprimary : (Value.text c.primary).orElse defaultPrimary = .text c.primary :=
    Value.orElse_of_truthy hpresent _
  have hsort : firstGiven [.null, .null, .null, .ofText? c.sortField] = .ofText? c.sortField := by
    cases c.sortField <;> rfl
  have hnote : firstGiven [.null, .ofText? c.note] = .ofText? c.note := by
    cases c.note <;> rfl
  unfold Collection.ofEntry collection
  refine bind_ok_iff.mpr ⟨_, c.isMarkedOf_name mark, bind_ok_iff.mpr ⟨_, hfields, ?_⟩⟩
  dsimp only
  rw [hprimary, ← hsort, ← hnote]
  rfl

/-- **A collection of the host comes out of its fields**, known by `id`. -/
theorem ofEntry_recovered {c : CollectionOutline} (hhost : c.isHost mark = true)
    (hprimary : c.primary = "id") :
    Collection.ofEntry (.text mark) Table.empty (.text c.name) []
        (c.ownFields.map (FieldOutline.rawBeside c))
      = .ok c.recovered := by
  have hfields := foldlM_addField_beside c (.text c.name) (c.isHost mark) c.ownFields
    (Table.empty, Value.get [] "primary")
  have hid : (markedPrimary c.primary (Value.get [] "primary") c.ownFields).orElse defaultPrimary
      = defaultPrimary := by
    rw [markedPrimary_of_mem rfl, hprimary]
    split <;> rfl
  unfold Collection.ofEntry recovered
  refine bind_ok_iff.mpr ⟨_, c.isMarkedOf_name mark, bind_ok_iff.mpr ⟨_, hfields, ?_⟩⟩
  rw [hhost]
  dsimp only
  rw [hid]
  rfl

end CollectionOutline

end CollectionTypes
