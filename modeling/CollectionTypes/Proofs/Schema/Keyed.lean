import CollectionTypes.Generation
import CollectionTypes.Proofs.Entries
import CollectionTypes.Proofs.Outcome
import Mathlib.Data.List.Nodup

/-!
# Everything stands under its own name

In the index of a schema every collection stands under the key of its name,
and so does every field of a collection; and a collection counts as the
host's exactly if its name carries the mark. `Index.Keyed` says this of an
index. Indexing makes such an index (`keyed_ofSchema`), and linking, which
changes nothing of a field but its link, leaves it such an index
(`Keyed.resolve`).

What linking keeps is derived from one step: whatever a link put on a field
keeps, all relations together keep (`Linking.resolve_keeps`).
-/

namespace CollectionTypes

/-- **A collection in its place**: under the key of its name, told from the
host's by the mark, its fields under the keys of theirs. -/
structure Collection.Keyed (mark : Value) (key : Key) (c : Collection) : Prop where
  name_key : c.name.key = key
  isMarked : Naming.isMarkedOf mark c.name.value = .ok c.isSystem
  fields : c.fields.All fun k f => f.name.key = k

/-- **An index with every collection in its place.** -/
def Index.Keyed (mark : Value) (ix : Index) : Prop :=
  ix.All (Collection.Keyed mark)

open Outcome

variable {mark : Value} {flags : Flags}

/-! ## Indexing -/

/-- Reading one more field leaves each field under the key of its name. -/
theorem addField_keyed {owner : Name} {ownerIsSystem : Bool} {b b' : FieldsSoFar}
    {r : RawField} (hb : b.1.All fun k f => f.name.key = k)
    (h : addField flags owner ownerIsSystem b r = .ok b') :
    b'.1.All fun k f => f.name.key = k := by
  unfold addField at h
  obtain ⟨f?, -, h⟩ := bind_ok_iff.mp h
  cases f? with
  | none => exact Except.ok.inj h ▸ hb
  | some f =>
    rw [← Except.ok.inj h]
    exact hb.insert rfl

/-- A collection has the name that it was made for, and is in its place
under it. -/
theorem Collection.keyed_ofEntry {name : Name} {entry : List (String × Value)}
    {raw : List RawField} {c : Collection} (h : ofEntry mark flags name entry raw = .ok c) :
    c.Keyed mark name.key := by
  unfold ofEntry at h
  obtain ⟨isSystem, hmarked, h⟩ := bind_ok_iff.mp h
  obtain ⟨⟨fields, primary⟩, hfields, h⟩ := bind_ok_iff.mp h
  rw [← Except.ok.inj h]
  have hkeyed : (fields, primary).1.All fun k f => f.name.key = k :=
    foldlM_keeps (P := fun b : FieldsSoFar => b.1.All fun k f => f.name.key = k)
      (fun _ _ _ => addField_keyed) Table.All.empty hfields
  exact ⟨rfl, hmarked, hkeyed⟩

namespace Index

theorem keyed_addEntry {detached : Table Key Detached} {ix ix' : Index} {v : Value}
    (hix : ix.Keyed mark) (h : (addEntry mark flags detached ix v).outcome = .ok ix') :
    ix'.Keyed mark := by
  unfold addEntry at h
  cases hl : Listing.ofValue v with
  | other =>
    rw [hl] at h
    exact Except.ok.inj h ▸ hix
  | nameless =>
    rw [hl] at h
    exact Except.ok.inj h ▸ hix
  | folder name =>
    rw [hl] at h
    exact Except.ok.inj h ▸ hix
  | collection name entry =>
    rw [hl] at h
    obtain ⟨name', -, h⟩ := bind_ok_iff.mp h
    obtain ⟨c, hc, h⟩ := bind_ok_iff.mp h
    rw [← Except.ok.inj h]
    exact Table.All.insert hix (Collection.keyed_ofEntry hc)

theorem keyed_addUnlisted {ix ix' : Index} {d : Detached} (hix : ix.Keyed mark)
    (h : (addUnlisted mark flags ix d).outcome = .ok ix') : ix'.Keyed mark := by
  unfold addUnlisted at h
  split at h
  · exact Except.ok.inj h ▸ hix
  · rw [Traced.outcome_bind] at h
    obtain ⟨isMarked, -, h⟩ := bind_ok_iff.mp h
    split at h
    · rw [Traced.outcome_bind] at h
      obtain ⟨-, -, h⟩ := bind_ok_iff.mp h
      rw [Traced.outcome_bind] at h
      obtain ⟨c, hc, h⟩ := bind_ok_iff.mp h
      rw [← Except.ok.inj h]
      exact Table.All.insert hix (Collection.keyed_ofEntry hc)
    · exact Except.ok.inj h ▸ hix

/-- **Indexing puts every collection in its place.** -/
theorem keyed_ofSchema {schema : Value} {ix : Index}
    (h : (ofSchema mark flags schema).outcome = .ok ix) : ix.Keyed mark := by
  unfold ofSchema at h
  cases hms : schema.members? with
  | none =>
    rw [hms] at h
    rw [← Except.ok.inj h]
    exact Table.All.empty
  | some ms =>
    rw [hms] at h
    simp only [ofMembers, Traced.outcome_bind, Traced.outcome_foldlM] at h
    obtain ⟨detached, -, h⟩ := bind_ok_iff.mp h
    obtain ⟨listed, hlisted, h⟩ := bind_ok_iff.mp h
    obtain ⟨all, hall, h⟩ := bind_ok_iff.mp h
    obtain ⟨-, -, h⟩ := bind_ok_iff.mp h
    have hkeyed : listed.Keyed mark :=
      foldlM_keeps (P := Index.Keyed mark) (fun _ _ _ => keyed_addEntry)
        Table.All.empty hlisted
    rw [← Except.ok.inj h]
    exact foldlM_keeps (P := Index.Keyed mark) (fun _ _ _ => keyed_addUnlisted) hkeyed hall

end Index

namespace Run

variable {s : Settings} {schema records : Value} {ix : Index}

/-- A run has an index if the records make flags, and these an index. -/
theorem index_ok_iff :
    (index s schema records).outcome = .ok ix
      ↔ ∃ flags, Flags.ofRecords records = .ok flags
          ∧ (Index.ofSchema (.text s.systemPrefix) flags schema).outcome = .ok ix := by
  unfold index
  rw [Traced.outcome_bind]
  exact bind_ok_iff

/-- What a run indexes is in its place. -/
theorem keyed_index (h : (index s schema records).outcome = .ok ix) :
    ix.Keyed (.text s.systemPrefix) := by
  obtain ⟨flags, -, h⟩ := index_ok_iff.mp h
  exact Index.keyed_ofSchema h

end Run

/-! ## Linking -/

namespace Linking

theorem warnings_put (w : Linking) (side : Option (FieldPlace × Link)) :
    (w.put side).warnings = w.warnings := by
  cases side <;> rfl

theorem fault_put (w : Linking) (side : Option (FieldPlace × Link)) :
    (w.put side).fault = w.fault := by
  cases side <;> rfl

variable {P : Index → Prop}

theorem put_keeps (hP : ∀ ix place l, P ix → P (ix.attach place l)) {w : Linking}
    (hw : P w.index) (side : Option (FieldPlace × Link)) : P (w.put side).index := by
  cases side with
  | none => exact hw
  | some side => exact hP _ _ _ hw

theorem link_keeps (hP : ∀ ix place l, P ix → P (ix.attach place l)) {w : Linking}
    (hw : P w.index) (r : Relation) : P (w.link r).index := by
  unfold link
  split
  · exact hw
  · split
    · exact hw
    · unfold linkSides
      split
      · exact hw
      · next one _ =>
        have hone := put_keeps hP hw one
        dsimp only
        split
        · exact hone
        · exact put_keeps hP hone _

/-- **What a link on a field keeps, all relations together keep.** -/
theorem resolve_keeps (hP : ∀ ix place l, P ix → P (ix.attach place l)) {ix : Index}
    (hix : P ix) (rs : List Relation) : P (resolve ix rs).index := by
  have hrun : ∀ w : Linking, P w.index → P (rs.foldl link w).index := by
    induction rs with
    | nil => exact fun _ hw => hw
    | cons r rs ih => exact fun w hw => ih (w.link r) (link_keeps hP hw r)
  exact hrun (start ix) hix

/-- Linking neither adds a collection nor drops one. -/
theorem keys_resolve (ix : Index) (rs : List Relation) : (resolve ix rs).index.keys = ix.keys :=
  resolve_keeps (P := fun ix' => ix'.keys = ix.keys)
    (fun ix' place _ h => (Table.keys_modify ix' place.1 _).trans h) rfl rs

end Linking

namespace Index.Keyed

/-- A link on a field leaves everything in its place. -/
theorem attach {ix : Index} (hix : ix.Keyed mark) (place : FieldPlace) (l : Link) :
    (ix.attach place l).Keyed mark :=
  hix.modify fun _ hc => ⟨hc.name_key, hc.isMarked, hc.fields.modify fun _ hf => hf⟩

/-- **Linking leaves everything in its place.** -/
theorem resolve {ix : Index} (hix : ix.Keyed mark) (rs : List Relation) :
    (Linking.resolve ix rs).index.Keyed mark :=
  Linking.resolve_keeps (P := Index.Keyed mark) (fun _ place l h => h.attach place l) hix rs

/-- **No two collections have one name.** -/
theorem nodup_names {mark : Value} {ix : Index} (hix : ix.Keyed mark) :
    (ix.values.map Collection.name).Nodup := by
  refine List.Nodup.of_map Name.key ?_
  have hkeys : (ix.values.map fun c => c.name.key) = ix.keys :=
    Table.All.map_values fun k c hc => (hix k c hc).name_key
  rw [List.map_map]
  exact hkeys ▸ ix.keys_nodup

end Index.Keyed

end CollectionTypes
