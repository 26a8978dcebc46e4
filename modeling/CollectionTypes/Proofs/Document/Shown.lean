import CollectionTypes.Document.View
import CollectionTypes.Proofs.Arranged
import CollectionTypes.Proofs.Schema.Keyed
import Mathlib.Data.List.Nodup

/-!
# What is shown of an index

A collection is shown unless the host provides it and owns all its fields
(`Collection.isShown`); shown are all fields of a collection of the project,
and of one of the host's those that the host does not own
(`Collection.shownFields`). `View.Shows` says that a view shows a collection
in this way, and the views of an index are one for each collection that is
shown, in the order of the index (`View.ofIndex_ok_iff`).

In an index with everything in its place no two collections share a name,
nor do two fields of a collection. So no two views share a name
(`View.nodup_names`), nor do two fields that are shown of a collection
(`Collection.Keyed.nodup_shownFields`).
-/

namespace CollectionTypes

open Outcome

namespace Collection

/-- **Whether a collection is shown**: it is the project's, or the project
added fields to it. -/
def isShown (c : Collection) : Bool :=
  !c.isSystem || c.hasCustomFields

/-- **The fields that are shown of a collection.** -/
def shownFields (c : Collection) : List Field :=
  if c.isSystem then c.customFields else c.fields.values

/-- The name of the type of a collection called that. -/
def declaredName (s : Settings) (c : Collection) (name : String) : String :=
  if c.isSystem then Naming.unmarkedTypeName s.systemPrefix name else Naming.typeName name

/-- The host's own type that a collection called that extends. -/
def extended? (s : Settings) (c : Collection) (name : String) : Option Extension :=
  if c.isSystem then
    some ⟨Naming.unmarkedTypeName s.systemPrefix name, Naming.aliasName name⟩
  else none

theorem shownFields_of_project {c : Collection} (hc : c.isSystem = false) :
    c.shownFields = c.fields.values := by
  rw [shownFields, hc]
  rfl

theorem shownFields_of_host {c : Collection} (hc : c.isSystem = true) :
    c.shownFields = c.customFields := by
  rw [shownFields, hc]
  rfl

theorem shownFields_sublist (c : Collection) : c.shownFields.Sublist c.fields.values := by
  unfold shownFields
  split
  · exact List.filter_sublist
  · exact List.Sublist.refl _

theorem mem_shownFields {c : Collection} {f : Field} :
    f ∈ c.shownFields ↔ f ∈ c.fields.values ∧ (c.isSystem = true → f.system = false) := by
  cases hsystem : c.isSystem with
  | false =>
    rw [shownFields_of_project hsystem]
    exact (and_iff_left fun h => absurd h Bool.false_ne_true).symm
  | true =>
    rw [shownFields_of_host hsystem, customFields, List.mem_filter, Bool.not_eq_true']
    exact and_congr_right fun _ => ⟨fun hf _ => hf, fun hf => hf rfl⟩

/-- **No two fields that are shown of a collection have one name.** -/
theorem Keyed.nodup_shownFields {mark : Value} {key : Key} {c : Collection}
    (hc : c.Keyed mark key) : (c.shownFields.map Field.name).Nodup := by
  refine List.Nodup.of_map Name.key ?_
  have hkeys : (c.fields.values.map fun f => f.name.key) = c.fields.keys :=
    hc.fields.map_values
  have hnodup : (c.fields.values.map fun f => f.name.key).Nodup :=
    hkeys ▸ c.fields.keys_nodup
  rw [List.map_map]
  exact hnodup.sublist (c.shownFields_sublist.map _)

end Collection

/-- **The order of members** loses no field and adds none. -/
theorem memberFields_perm {fs ordered : List Field} (h : memberFields fs = .ok ordered) :
    ordered.Perm fs := by
  obtain ⟨linked, hlinked, h⟩ := bind_ok_iff.mp h
  obtain rfl := Except.ok.inj h
  have hsplit := List.filter_append_perm (fun f : Field => f.relation.isNone) fs
  simp only [Option.not_isNone] at hsplit
  exact ((arrange_perm hlinked).append_left _).trans hsplit

namespace View

/-- The view of a collection called that, with those fields. -/
def showing (s : Settings) (c : Collection) (name : String) (fields : List Field) : View where
  collection := c
  name
  typeName := c.declaredName s name
  identifier := Naming.singular name
  fields
  base := c.extended? s name

/-- **A view shows a collection**: it calls it by its name, which is a text,
and has the fields that are shown of it as members. -/
structure Shows (s : Settings) (c : Collection) (v : View) : Prop where
  eq_showing : v = showing s c v.name v.fields
  name : c.name = .text v.name
  fields : memberFields c.shownFields = .ok v.fields

namespace Shows

variable {s : Settings} {c : Collection} {v w : View}

theorem collection (h : v.Shows s c) : v.collection = c :=
  congrArg View.collection h.eq_showing

theorem typeName (h : v.Shows s c) : v.typeName = c.declaredName s v.name :=
  congrArg View.typeName h.eq_showing

theorem identifier (h : v.Shows s c) : v.identifier = Naming.singular v.name :=
  congrArg View.identifier h.eq_showing

theorem base (h : v.Shows s c) : v.base = c.extended? s v.name :=
  congrArg View.base h.eq_showing

end Shows

variable {s : Settings}

theorem plain_eq_showing (s : Settings) {c : Collection} (hc : c.isSystem = false) (name : String)
    (fields : List Field) : plain c name fields = showing s c name fields := by
  unfold showing Collection.declaredName Collection.extended?
  rw [hc]
  rfl

theorem extending_eq_showing (s : Settings) {c : Collection} (hc : c.isSystem = true) (name : String)
    (fields : List Field) :
    extending s.systemPrefix c name fields = showing s c name fields := by
  unfold showing Collection.declaredName Collection.extended?
  rw [hc]
  rfl

/-- **The view of a collection that is shown**, if its name is a text and
its members can be put in order. -/
def ofShown (s : Settings) (c : Collection) : Except Misuse View :=
  match c.name with
  | .text name => (memberFields c.shownFields).map (showing s c name)
  | name => .error (nameFault (if c.isSystem then s.systemPrefix else "") name)

theorem ofShown_ok_iff {c : Collection} {v : View} :
    ofShown s c = .ok v ↔ v.Shows s c := by
  unfold ofShown
  constructor
  · intro h
    split at h
    · next name hname =>
      obtain ⟨fs, hfs, rfl⟩ := map_ok_iff.mp h
      exact ⟨rfl, hname, hfs⟩
    · cases h
  · intro h
    rw [h.name]
    exact map_ok_iff.mpr ⟨v.fields, h.fields, h.eq_showing.symm⟩

/-- A collection is viewed exactly if it is shown. -/
theorem outcome_ofCollection? (c : Collection) :
    (ofCollection? s c).outcome
      = if c.isShown then (ofShown s c).map some else .ok none := by
  unfold ofCollection? ofShown Collection.isShown
  cases hsystem : c.isSystem with
  | false =>
    rw [Collection.shownFields_of_project hsystem]
    cases c.name with
    | text name =>
      generalize memberFields c.fields.values = out
      simp only [plain_eq_showing s hsystem]
      cases out <;> rfl
    | flag b => rfl
    | int n => rfl
    | real x => rfl
  | true =>
    rw [Collection.shownFields_of_host hsystem]
    cases c.hasCustomFields with
    | false => rfl
    | true =>
      cases c.name with
      | text name =>
        generalize memberFields c.customFields = out
        simp only [extending_eq_showing s hsystem]
        cases out <;> rfl
      | flag b => rfl
      | int n => rfl
      | real x => rfl

theorem outcome_ofCollections (cs : List Collection) :
    (ofCollections s cs).outcome = (cs.filter Collection.isShown).mapM (ofShown s) := by
  induction cs with
  | nil => rfl
  | cons c cs ih =>
    simp only [ofCollections, Traced.outcome_bind, outcome_ofCollection?, ih]
    rw [List.filter_cons]
    split
    · rw [List.mapM_cons]
      cases ofShown s c <;> rfl
    · cases (cs.filter Collection.isShown).mapM (ofShown s) <;> rfl

/-- **The views of an index** are those of the collections that are shown,
in the order of the index. -/
theorem outcome_ofIndex (ix : Index) :
    (ofIndex s ix).outcome = (ix.values.filter Collection.isShown).mapM (ofShown s) := by
  rw [← outcome_ofCollections]
  unfold ofIndex
  rw [Traced.outcome_bind]
  cases (ofCollections s ix.values).outcome <;> rfl

theorem ofIndex_ok_iff {ix : Index} {vs : List View} :
    (ofIndex s ix).outcome = .ok vs
      ↔ vs.map View.collection = ix.values.filter Collection.isShown
          ∧ ∀ v ∈ vs, v.Shows s v.collection := by
  rw [outcome_ofIndex, mapM_ok_iff]
  simp only [ofShown_ok_iff]
  exact forall₂_along_iff fun c v h => h.collection

/-- Collections with distinct names have views with distinct names. -/
theorem nodup_names {ix : Index} {vs : List View} (hix : (ix.values.map Collection.name).Nodup)
    (h : (ofIndex s ix).outcome = .ok vs) : (vs.map View.name).Nodup := by
  obtain ⟨hcollections, hshows⟩ := ofIndex_ok_iff.mp h
  have hshown : ((ix.values.filter Collection.isShown).map Collection.name).Nodup :=
    hix.sublist (List.filter_sublist.map Collection.name)
  rw [← hcollections, List.map_map] at hshown
  have htexts : (vs.map View.name).map Name.text = vs.map (Collection.name ∘ collection) := by
    rw [List.map_map]
    exact List.map_congr_left fun v hv => (hshows v hv).name.symm
  exact List.Nodup.of_map Name.text (htexts ▸ hshown)

end View

end CollectionTypes
