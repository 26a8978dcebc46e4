import CollectionTypes.Proofs.Readings
import CollectionTypes.Proofs.Schema.Keyed

/-!
# Indexing stage by stage

An index comes about in three stages. The detached fields are gathered under
the collections that own them; the entries of the schema are put in, one after
the other; and then the host's collections that are known by their detached
fields only. Each stage works through a list, and what it takes from an element
of the list does not depend on the elements before: an entry gives a collection
(`Index.listed?`), and so do detached fields whose collection is not listed
(`Index.unlisted?`). `Index.Stages` says what the stages make of this, and a
schema is indexed exactly if they go well (`Index.ofSchema_ok_iff`).

Of the records about fields no more is asked than whom they say a field
belongs to (`Collection.ofEntry_congr`), and of records of one field the last
one counts (`Flags.system?_foldl_note`).
-/

namespace CollectionTypes

open Outcome

/-! ## Records about fields -/

/-- The field that a flag is about. -/
def Flag.key (f : Flag) : Key × Key :=
  (f.collection.key, f.field.key)

namespace Flags

/-- What one record says about a field. -/
def flag? (v : Value) : Except Misuse (Option Flag) :=
  match v.members? with
  | none => .ok none
  | some ms =>
    let collection := Value.get ms "collection"
    let field := Value.get ms "field"
    if collection.truthy && field.truthy then
      match systemFlag? (Value.get ms "meta") with
      | none => .ok none
      | some system => do
        let collection ← Name.ofValue collection
        let field ← Name.ofValue field
        return some ⟨collection, field, system⟩
    else .ok none

/-- The flags with one more. -/
def note (flags : Flags) (f : Flag) : Flags :=
  flags.record f.collection f.field f.system

/-- The records that a value lists. -/
def recordsOf (v : Value) : Except Misuse (List Value) :=
  if v.truthy then v.elements else .ok []

theorem take_eq_map (flags : Flags) (v : Value) :
    flags.take v = (flag? v).map fun f? => f?.elim flags flags.note := by
  unfold take flag?
  cases v.members? with
  | none => rfl
  | some ms =>
    dsimp only
    split
    · cases systemFlag? (Value.get ms "meta") with
      | none => rfl
      | some system =>
        cases Name.ofValue (Value.get ms "collection") with
        | error m => rfl
        | ok collection => cases Name.ofValue (Value.get ms "field") <;> rfl
    · rfl

/-- **Records make flags** one after the other, if they all make sense. -/
theorem ofRecords_ok_iff {v : Value} {flags : Flags} :
    ofRecords v = .ok flags
      ↔ ∃ vs, recordsOf v = .ok vs ∧ (∀ r ∈ vs, ∃ f?, flag? r = .ok f?)
          ∧ (vs.filterMap fun r => given (flag? r)).foldl note Table.empty = flags := by
  have hrecords : ofRecords v = recordsOf v >>= fun vs => vs.foldlM take Table.empty := by
    unfold ofRecords recordsOf
    split <;> rfl
  rw [hrecords, bind_ok_iff]
  simp only [foldlM_given_iff take_eq_map]

/-- **The last record of a field counts.** -/
theorem system?_foldl_note (fs : List Flag) (flags : Flags) (c f : Name) :
    (fs.foldl note flags).system? c f
      = (Table.lastOf (c.key, f.key) (fs.map fun f => (f.key, f.system))).or
          (flags.system? c f) := by
  induction fs generalizing flags with
  | nil => rfl
  | cons g fs ih =>
    rw [List.foldl_cons, ih, List.map_cons, Table.lastOf_cons, Option.or_assoc, note,
      system?_record]
    refine congrArg _ ?_
    show (if g.key = (c.key, f.key) then _ else _) = _
    split <;> rfl

/-- **Flags that say the same** of every field. -/
def Alike (flags flags' : Flags) : Prop :=
  ∀ c f, flags.system? c f = flags'.system? c f

end Flags

/-- Nothing else is asked of the flags. -/
theorem Collection.ofEntry_congr {flags flags' : Flags} (h : flags.Alike flags') (mark : Value)
    (name : Name) (entry : List (String × Value)) (raw : List RawField) :
    ofEntry mark flags name entry raw = ofEntry mark flags' name entry raw := by
  have hfield : ∀ (r : RawField) (isSystem : Bool),
      r.field? flags name isSystem = r.field? flags' name isSystem := by
    intro r isSystem
    unfold RawField.field? RawField.system
    simp only [h name]
  have hadd : addField flags name = addField flags' name := by
    funext isSystem b r
    unfold addField
    rw [hfield]
  unfold ofEntry
  rw [hadd]

theorem Collection.name_of_ofEntry {mark : Value} {flags : Flags} {name : Name}
    {entry : List (String × Value)} {raw : List RawField} {c : Collection}
    (h : ofEntry mark flags name entry raw = .ok c) : c.name = name := by
  unfold ofEntry at h
  obtain ⟨isSystem, -, h⟩ := bind_ok_iff.mp h
  obtain ⟨⟨fields, primary⟩, -, h⟩ := bind_ok_iff.mp h
  rw [← Except.ok.inj h]

/-! ## Detached fields -/

/-- A detached field with the collection that owns it, if it names one. -/
def RawField.owned? (r : RawField) : Except Misuse (Option (Name × RawField)) :=
  (Name.ofPresent (Value.get r.members "collection")).map fun owner? => owner?.map (·, r)

/-- The detached fields of a collection with one more. -/
def Detached.join (d? : Option Detached) (p : Name × RawField) : Option Detached :=
  some (d?.elim ⟨p.1, [p.2]⟩ fun d => { d with fields := d.fields ++ [p.2] })

/-- The detached fields with one more. -/
def detach (t : Table Key Detached) (p : Name × RawField) : Table Key Detached :=
  if t.contains p.1.key then
    t.modify p.1.key fun d => { d with fields := d.fields ++ [p.2] }
  else t.insert p.1.key ⟨p.1, [p.2]⟩

theorem addDetached_eq_map (t : Table Key Detached) (r : RawField) :
    addDetached t r = r.owned?.map fun p? => p?.elim t (detach t) := by
  unfold addDetached RawField.owned? detach
  cases Name.ofPresent (Value.get r.members "collection") with
  | error m => rfl
  | ok owner? =>
    cases owner? with
    | none => rfl
    | some owner =>
      show (if t.contains owner.key = true then _ else _ : Except Misuse _)
        = .ok (if t.contains owner.key = true then _ else _)
      split <;> rfl

theorem find?_detach (t : Table Key Detached) (p : Name × RawField) (k : Key) :
    (detach t p).find? k = if p.1.key = k then Detached.join (t.find? k) p else t.find? k := by
  unfold detach
  split
  · next hthere =>
    rw [Table.find?_modify]
    split
    · next hk =>
      obtain ⟨d, hd⟩ := Option.isSome_iff_exists.mp hthere
      rw [← hk, hd]
      rfl
    · rfl
  · next hthere =>
    rw [Table.find?_insert]
    split
    · next hk =>
      rw [← hk, Option.not_isSome_iff_eq_none.mp hthere]
      rfl
    · rfl

/-- **Detached fields are gathered under their collection**, in their order. -/
theorem find?_foldl_detach (ps : List (Name × RawField)) (t : Table Key Detached) (k : Key) :
    (ps.foldl detach t).find? k
      = (ps.filter fun p => p.1.key = k).foldl Detached.join (t.find? k) := by
  induction ps generalizing t with
  | nil => rfl
  | cons p ps ih =>
    rw [List.foldl_cons, ih, find?_detach, List.filter_cons]
    by_cases hk : p.1.key = k
    · rw [if_pos hk, if_pos (decide_eq_true hk), List.foldl_cons]
    · rw [if_neg hk, if_neg (fun h => hk (of_decide_eq_true h))]

theorem detach_owned {t : Table Key Detached} (ht : t.All fun k d => d.owner.key = k)
    (p : Name × RawField) : (detach t p).All fun k d => d.owner.key = k := by
  unfold detach
  split
  · exact ht.modify fun _ hd => hd
  · exact ht.insert rfl

/-- Detached fields stand under the collection that owns them. -/
theorem foldl_detach_owned (ps : List (Name × RawField)) {t : Table Key Detached}
    (ht : t.All fun k d => d.owner.key = k) :
    (ps.foldl detach t).All fun k d => d.owner.key = k := by
  induction ps generalizing t with
  | nil => exact ht
  | cons p ps ih => exact ih (detach_owned ht p)

/-- **The detached fields in a table**, by the collections that own them. -/
def gathered (raw : List RawField) : Table Key Detached :=
  (raw.filterMap fun r => given r.owned?).foldl detach Table.empty

/-- No two collections of detached fields have one name. -/
theorem nodup_owners (raw : List RawField) :
    ((gathered raw).values.map fun d => d.owner.key).Nodup := by
  have howned : (gathered raw).All fun k d => d.owner.key = k :=
    foldl_detach_owned _ Table.All.empty
  rw [howned.map_values]
  exact (gathered raw).keys_nodup

/-! ## Collections -/

/-- The name of a collection that an entry lists. -/
def Listing.name? : Listing → Option Value
  | .collection name _ => some name
  | _ => none

namespace Index

/-- The index with a collection under its name. -/
def place (ix : Index) (c : Collection) : Index :=
  ix.insert c.name.key c

/-- **What a reader sees of collections** put in one after the other: the last
one of each name. -/
theorem find?_foldl_place (cs : List Collection) (ix : Index) (k : Key) :
    (cs.foldl place ix).find? k
      = (Table.lastOf k (cs.map fun c => (c.name.key, c))).or (ix.find? k) := by
  rw [← Table.find?_foldl_insert, List.foldl_map]
  rfl

variable (mark : Value) (flags : Flags)

/-- The collection that an entry of the schema lists. -/
def listed? (detached : Table Key Detached) (v : Value) : Except Misuse (Option Collection) :=
  match Listing.ofValue v with
  | .collection name entry => do
    let name ← Name.ofValue name
    let c ← Collection.ofEntry mark flags name entry
      (RawField.ofValue (Value.get entry "fields") ++ detachedOf detached name)
    return some c
  | _ => .ok none

/-- The collection that detached fields make known, if it is the host's and not
listed. -/
def unlisted? (listed : Index) (d : Detached) : Except Misuse (Option Collection) :=
  if listed.contains d.owner.key then .ok none
  else do
    if ← Naming.isMarkedOf mark d.owner.value then
      return some (← Collection.ofEntry mark flags d.owner [] d.fields)
    else return none

/-- The index of the collections that entries list. -/
def listedFrom (detached : Table Key Detached) (vs : List Value) : Index :=
  (vs.filterMap fun v => given (listed? mark flags detached v)).foldl place Table.empty

/-- The index with the collections that detached fields make known. -/
def withUnlisted (listed : Index) (detached : Table Key Detached) : Index :=
  (detached.values.filterMap fun d => given (unlisted? mark flags listed d)).foldl place listed

variable {mark flags}

theorem outcome_addEntry_eq_map (detached : Table Key Detached) (ix : Index) (v : Value) :
    (addEntry mark flags detached ix v).outcome
      = (listed? mark flags detached v).map fun c? => c?.elim ix ix.place := by
  unfold addEntry listed?
  cases Listing.ofValue v with
  | other => rfl
  | nameless => rfl
  | folder name => rfl
  | collection name entry =>
    show addListed mark flags detached ix name entry = _
    unfold addListed
    dsimp only
    cases Name.ofValue name with
    | error m => rfl
    | ok name =>
      dsimp only [bind, Except.bind]
      cases hc : Collection.ofEntry mark flags name entry
        (RawField.ofValue (Value.get entry "fields") ++ detachedOf detached name) with
      | error m => rfl
      | ok c =>
        show Except.ok (ix.insert name.key c) = Except.ok (ix.insert c.name.key c)
        rw [Collection.name_of_ofEntry hc]

theorem outcome_addUnlisted_eq_map {listed ix : Index} {d : Detached}
    (hix : ix.contains d.owner.key = listed.contains d.owner.key) :
    (addUnlisted mark flags ix d).outcome
      = (unlisted? mark flags listed d).map fun c? => c?.elim ix ix.place := by
  unfold addUnlisted unlisted?
  rw [hix]
  split
  · rfl
  · rw [Traced.outcome_bind]
    cases Naming.isMarkedOf mark d.owner.value with
    | error m => rfl
    | ok marked =>
      cases marked with
      | false => rfl
      | true =>
        cases hc : Collection.ofEntry mark flags d.owner [] d.fields with
        | error m => rfl
        | ok c =>
          show Except.ok (ix.insert d.owner.key c) = Except.ok (ix.insert c.name.key c)
          rw [Collection.name_of_ofEntry hc]

/-- An entry lists a collection under the name that it gives. -/
theorem name_of_listed? {detached : Table Key Detached} {v : Value} {c : Collection}
    (h : listed? mark flags detached v = .ok (some c)) :
    ∃ name, (Listing.ofValue v).name? = some name ∧ Name.ofValue name = .ok c.name := by
  unfold listed? at h
  split at h
  · next name entry heq =>
    obtain ⟨name', hname', h⟩ := bind_ok_iff.mp h
    obtain ⟨c', hc', h⟩ := bind_ok_iff.mp h
    obtain rfl := Option.some.inj (Except.ok.inj h)
    rw [heq, Collection.name_of_ofEntry hc']
    exact ⟨name, rfl, hname'⟩
  · cases h

theorem name_of_unlisted? {listed : Index} {d : Detached} {c : Collection}
    (h : unlisted? mark flags listed d = .ok (some c)) : c.name = d.owner := by
  unfold unlisted? at h
  split at h
  · cases h
  · obtain ⟨marked, -, h⟩ := bind_ok_iff.mp h
    split at h
    · obtain ⟨c', hc', h⟩ := bind_ok_iff.mp h
      rw [← Option.some.inj (Except.ok.inj h)]
      exact Collection.name_of_ofEntry hc'
    · cases h

/-- **What is not listed is told from what is**, since no two collections of
detached fields have one name: those put in before do not count. -/
theorem outcome_foldlM_addUnlisted {listed ix : Index} {ds : List Detached}
    (hd : (ds.map fun d => d.owner.key).Nodup)
    (hix : ∀ d ∈ ds, ix.contains d.owner.key = listed.contains d.owner.key) :
    (ds.foldlM (addUnlisted mark flags) ix).outcome
      = ds.foldlM (fun ix d => (unlisted? mark flags listed d).map fun c? => c?.elim ix ix.place)
          ix := by
  induction ds generalizing ix with
  | nil => rfl
  | cons d ds ih =>
    rw [List.map_cons, List.nodup_cons] at hd
    rw [List.forall_mem_cons] at hix
    rw [List.foldlM_cons, List.foldlM_cons, Traced.outcome_bind,
      outcome_addUnlisted_eq_map hix.1]
    cases hc : unlisted? mark flags listed d with
    | error m => rfl
    | ok c? =>
      refine ih hd.2 fun d' hd' => ?_
      cases c? with
      | none => exact hix.2 d' hd'
      | some c =>
        have hne : c.name.key ≠ d'.owner.key := by
          intro hsame
          rw [name_of_unlisted? hc] at hsame
          exact hd.1 (List.mem_map.mpr ⟨d', hd', hsame.symm⟩)
        rw [← hix.2 d' hd']
        show ((ix.insert c.name.key c).find? d'.owner.key).isSome = _
        rw [Table.find?_insert, if_neg hne]
        rfl

end Index

/-! ## All stages -/

/-- A part of a schema; nothing where the schema is no object. -/
def Value.part (schema : Value) (name : String) : Value :=
  Value.get (schema.members?.getD []) name

/-- The relations of a schema stand in one part of it. -/
theorem Relation.ofSchema_eq_part (schema : Value) :
    ofSchema schema = ((schema.part "relations").orElse (.list [])).elements >>= fun vs =>
      .ok (vs.filterMap fun v => v.members?.map ofMembers) := by
  unfold ofSchema Value.part
  cases schema.members? <;> rfl

/-- The detached fields of a schema, in a row. -/
def rawFields (schema : Value) : List RawField :=
  RawField.ofValue (schema.part "fields")

/-- The entries of a schema, in a row. -/
def entriesOf (schema : Value) : List Value :=
  (rows "collection" (schema.part "collections")).map Prod.snd

namespace Index

/-- **What the stages of indexing give**: the detached fields, the collections
that are listed, and all collections. -/
structure Stages (mark : Value) (flags : Flags) (schema : Value)
    (detached : Table Key Detached) (listed ix : Index) : Prop where
  owned : ∀ r ∈ rawFields schema, ∃ p?, r.owned? = .ok p?
  detached_eq : gathered (rawFields schema) = detached
  entries : ∀ v ∈ entriesOf schema, ∃ c?, listed? mark flags detached v = .ok c?
  listed_eq : listedFrom mark flags detached (entriesOf schema) = listed
  unlisted : ∀ d ∈ detached.values, ∃ c?, unlisted? mark flags listed d = .ok c?
  index_eq : withUnlisted mark flags listed detached = ix

variable {mark : Value} {flags : Flags} {schema : Value}

theorem outcome_ofSchema_eq (mark : Value) (flags : Flags) (schema : Value) :
    (ofSchema mark flags schema).outcome
      = (ofMembers mark flags (schema.members?.getD [])).outcome := by
  unfold ofSchema
  cases schema.members? <;> rfl

/-- **A schema is indexed** exactly if all stages go well. -/
theorem ofSchema_ok_iff {ix : Index} :
    (ofSchema mark flags schema).outcome = .ok ix
      ↔ ∃ detached listed, Stages mark flags schema detached listed ix := by
  rw [outcome_ofSchema_eq]
  simp only [ofMembers, Traced.outcome_bind, Traced.outcome_foldlM]
  rw [bind_ok_iff]
  have hdetached : ∀ t, detachedFields (schema.members?.getD []) = .ok t
      ↔ (∀ r ∈ rawFields schema, ∃ p?, r.owned? = .ok p?)
        ∧ gathered (rawFields schema) = t :=
    fun t => foldlM_given_iff addDetached_eq_map
  have hlisted : ∀ t ix', (entriesOf schema).foldlM
        (fun ix v => (addEntry mark flags t ix v).outcome) Table.empty = .ok ix'
      ↔ (∀ v ∈ entriesOf schema, ∃ c?, listed? mark flags t v = .ok c?)
        ∧ listedFrom mark flags t (entriesOf schema) = ix' :=
    fun t ix' => foldlM_given_iff (outcome_addEntry_eq_map t)
  have hunlisted : ∀ listed ix', (gathered (rawFields schema)).values.foldlM
        (fun ix d => (addUnlisted mark flags ix d).outcome) listed = .ok ix'
      ↔ (∀ d ∈ (gathered (rawFields schema)).values,
          ∃ c?, unlisted? mark flags listed d = .ok c?)
        ∧ withUnlisted mark flags listed (gathered (rawFields schema)) = ix' := by
    intro listed ix'
    rw [← Traced.outcome_foldlM, outcome_foldlM_addUnlisted (nodup_owners _) fun _ _ => rfl]
    exact foldlM_given_iff fun _ _ => rfl
  constructor
  · rintro ⟨t, ht, h⟩
    obtain ⟨hraw, rfl⟩ := (hdetached t).mp ht
    obtain ⟨listed, hl, h⟩ := bind_ok_iff.mp h
    obtain ⟨hentries, hlisted_eq⟩ := (hlisted _ _).mp hl
    obtain ⟨ix', hu, h⟩ := bind_ok_iff.mp h
    obtain ⟨-, -, h⟩ := bind_ok_iff.mp h
    obtain rfl := Except.ok.inj h
    obtain ⟨hvalues, hindex_eq⟩ := (hunlisted _ _).mp hu
    exact ⟨_, listed, hraw, rfl, hentries, hlisted_eq, hvalues, hindex_eq⟩
  · rintro ⟨t, listed, hraw, rfl, hentries, hlisted_eq, hvalues, hindex_eq⟩
    refine ⟨_, (hdetached _).mpr ⟨hraw, rfl⟩, ?_⟩
    refine bind_ok_iff.mpr ⟨_, (hlisted _ _).mpr ⟨hentries, hlisted_eq⟩, ?_⟩
    exact bind_ok_iff.mpr ⟨_, (hunlisted _ _).mpr ⟨hvalues, hindex_eq⟩, rfl⟩

end Index

end CollectionTypes
