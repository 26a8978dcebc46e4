import CollectionTypes.Generation
import CollectionTypes.Proofs.Schema.Indexing
import CollectionTypes.Proofs.Schema.LastLink

/-!
# Schemas in another order

The collections, the relations, and the records about fields may be listed in
another order, and so may the fields that stand beside the collections, as long
as those of one collection keep theirs (`Value.SchemaReordered`). If no two
entries speak of one thing (`Unambiguous`), what is read from a schema in
another order is the same: the flags (`Flags.ofRecords_reordered`), the index
(`Index.Stages.reordered`), and the links (`Linking.resolve_reordered`).

Each of these is a table that is written entry by entry, and what a reader sees
of it is the last entry of a key, of which there is only one. The order of the
keys in the table may differ.
-/

namespace CollectionTypes

open Outcome

/-! ## Values in another order -/

namespace Value

/-- **A value, or its parts in another order.** -/
inductive Reordered : Value → Value → Prop where
  | same (v : Value) : Reordered v v
  | list {vs vs' : List Value} (h : vs.Perm vs') : Reordered (.list vs) (.list vs')
  | object {ms ms' : List (String × Value)} (h : ms.Perm ms') :
      Reordered (.object ms) (.object ms')

namespace Reordered

variable {v v' : Value}

theorem symm (h : v.Reordered v') : v'.Reordered v := by
  cases h with
  | same => exact .same v
  | list h => exact .list h.symm
  | object h => exact .object h.symm

theorem isEmpty_eq {α : Type} {as bs : List α} (h : as.Perm bs) : as.isEmpty = bs.isEmpty := by
  rw [Bool.eq_iff_iff, List.isEmpty_iff, List.isEmpty_iff]
  exact ⟨fun has => List.nil_perm.mp (has ▸ h), fun hbs => List.perm_nil.mp (hbs ▸ h)⟩

theorem truthy (h : v.Reordered v') : v.truthy = v'.truthy := by
  cases h with
  | same => rfl
  | list h => exact congrArg (!·) (isEmpty_eq h)
  | object h => exact congrArg (!·) (isEmpty_eq h)

theorem orElse (h : v.Reordered v') (w : Value) : (v.orElse w).Reordered (v'.orElse w) := by
  unfold Value.orElse
  rw [h.truthy]
  split
  · exact h
  · exact .same w

/-- The same elements come, in another order. -/
theorem elements (h : v.Reordered v') {vs : List Value} (hvs : v.elements = .ok vs) :
    ∃ vs', v'.elements = .ok vs' ∧ vs.Perm vs' := by
  cases h with
  | same => exact ⟨vs, hvs, .refl _⟩
  | list h =>
    cases hvs
    exact ⟨_, rfl, h⟩
  | object h =>
    cases hvs
    exact ⟨_, rfl, h.map _⟩

theorem rows (h : v.Reordered v') (nameKey : String) :
    ((CollectionTypes.rows nameKey v).map Prod.snd).Perm
      ((CollectionTypes.rows nameKey v').map Prod.snd) := by
  cases h with
  | same => exact .refl _
  | list h => exact (h.map _).map _
  | object h => exact (h.map _).map _

end Reordered

end Value

/-- Whether a detached field belongs to a collection. -/
def RawField.ownedBy (k : Key) (r : RawField) : Bool :=
  decide ((given r.owned?).map (fun p => p.1.key) = some k)

/-- **A schema in another order.** The detached fields of each collection keep
theirs. -/
structure Value.SchemaReordered (schema schema' : Value) : Prop where
  collections : (schema.part "collections").Reordered (schema'.part "collections")
  relations : (schema.part "relations").Reordered (schema'.part "relations")
  fields : (rawFields schema).Perm (rawFields schema')
  fieldsOf : ∀ k, (rawFields schema).filter (RawField.ownedBy k)
    = (rawFields schema').filter (RawField.ownedBy k)

namespace Value.SchemaReordered

variable {schema schema' : Value}

theorem symm (h : schema.SchemaReordered schema') : schema'.SchemaReordered schema :=
  ⟨h.collections.symm, h.relations.symm, h.fields.symm, fun k => (h.fieldsOf k).symm⟩

theorem entries (h : schema.SchemaReordered schema') :
    (entriesOf schema).Perm (entriesOf schema') :=
  h.collections.rows "collection"

theorem relationsOf (h : schema.SchemaReordered schema') {rs : List Relation}
    (hrs : Relation.ofSchema schema = .ok rs) :
    ∃ rs', Relation.ofSchema schema' = .ok rs' ∧ rs.Perm rs' := by
  rw [Relation.ofSchema_eq_part] at hrs ⊢
  obtain ⟨vs, hvs, hrs⟩ := bind_ok_iff.mp hrs
  obtain ⟨vs', hvs', hperm⟩ := (h.relations.orElse _).elements hvs
  refine ⟨_, bind_ok_iff.mpr ⟨vs', hvs', rfl⟩, ?_⟩
  rw [← Except.ok.inj hrs]
  exact hperm.filterMap _

end Value.SchemaReordered

/-! ## Records in another order -/

namespace Flags

variable {v v' : Value}

theorem recordsOf_reordered (h : v.Reordered v') {vs : List Value}
    (hvs : recordsOf v = .ok vs) : ∃ vs', recordsOf v' = .ok vs' ∧ vs.Perm vs' := by
  unfold recordsOf at hvs ⊢
  rw [← h.truthy]
  split at hvs
  · next htruthy =>
    rw [if_pos htruthy]
    exact h.elements hvs
  · next hfalsy =>
    rw [if_neg hfalsy]
    exact ⟨vs, hvs, .refl _⟩

/-- The fields that records are about. -/
def keysOf (vs : List Value) : List (Key × Key) :=
  (vs.filterMap fun r => given (flag? r)).map Flag.key

/-- **Records in another order make the same flags**, if no two are about one
field. -/
theorem ofRecords_reordered (h : v.Reordered v')
    (hd : ∀ vs, recordsOf v = .ok vs → (keysOf vs).Nodup) {flags : Flags}
    (hflags : ofRecords v = .ok flags) : ∃ flags', ofRecords v' = .ok flags' ∧ flags.Alike flags' := by
  obtain ⟨vs, hvs, hall, rfl⟩ := ofRecords_ok_iff.mp hflags
  obtain ⟨vs', hvs', hperm⟩ := recordsOf_reordered h hvs
  have hall' : ∀ r ∈ vs', ∃ f?, flag? r = .ok f? := fun r hr => hall r (hperm.mem_iff.mpr hr)
  refine ⟨_, ofRecords_ok_iff.mpr ⟨vs', hvs', hall', rfl⟩, fun c f => ?_⟩
  rw [system?_foldl_note, system?_foldl_note]
  refine congrArg (Option.or · _) (Table.lastOf_eq_of_perm ((hperm.filterMap _).map _) ?_ _)
  have hkeys := hd vs hvs
  unfold keysOf at hkeys
  rw [List.map_map]
  exact hkeys

end Flags

/-! ## Entries in another order -/

/-- The names of the collections that a schema lists. -/
def listedNames (schema : Value) : List Value :=
  (entriesOf schema).filterMap fun v => (Listing.ofValue v).name?

/-- **The names of the collections that a schema lists are distinct texts.** -/
structure NamesDistinct (schema : Value) : Prop where
  texts : ∀ v ∈ listedNames schema, ∃ name, v = .text name
  nodup : (listedNames schema).Nodup

theorem NamesDistinct.reordered {schema schema' : Value} (h : NamesDistinct schema)
    (hschema : schema.SchemaReordered schema') : NamesDistinct schema' := by
  have hperm : (listedNames schema).Perm (listedNames schema') := hschema.entries.filterMap _
  exact ⟨fun v hv => h.texts v (hperm.mem_iff.mpr hv), hperm.nodup_iff.mp h.nodup⟩

namespace Index

variable {mark : Value} {flags flags' : Flags} {detached detached' : Table Key Detached}

/-- Collections with distinct texts for names stand under distinct keys. -/
theorem nodup_listed {schema : Value} (hnames : NamesDistinct schema) (mark : Value)
    (flags : Flags) (detached : Table Key Detached) :
    (((entriesOf schema).filterMap fun v => given (listed? mark flags detached v)).map
      fun c => c.name.key).Nodup := by
  have hpairwise := hnames.nodup
  unfold List.Nodup listedNames at hpairwise
  rw [List.pairwise_filterMap] at hpairwise
  refine List.pairwise_map.mpr (List.pairwise_filterMap.mpr (hpairwise.imp_of_mem ?_))
  intro v v' hv hv' hne c hc c' hc' hkey
  obtain ⟨name, hname, hc⟩ := name_of_listed? (given_eq_some_iff.mp hc)
  obtain ⟨name', hname', hc'⟩ := name_of_listed? (given_eq_some_iff.mp hc')
  obtain ⟨t, rfl⟩ := hnames.texts name (List.mem_filterMap.mpr ⟨v, hv, hname⟩)
  obtain ⟨t', rfl⟩ := hnames.texts name' (List.mem_filterMap.mpr ⟨v', hv', hname'⟩)
  rw [← Except.ok.inj hc, ← Except.ok.inj hc'] at hkey
  exact hne _ hname _ hname' (congrArg Value.text (Key.text.inj hkey))

theorem nodup_unlisted (mark : Value) (flags : Flags) (listed : Index) (raw : List RawField) :
    (((gathered raw).values.filterMap fun d => given (unlisted? mark flags listed d)).map
      fun c => c.name.key).Nodup := by
  refine List.pairwise_map.mpr (List.pairwise_filterMap.mpr ?_)
  refine (List.pairwise_map.mp (nodup_owners raw)).imp fun {d d'} hne c hc c' hc' => ?_
  rw [name_of_unlisted? (given_eq_some_iff.mp hc), name_of_unlisted? (given_eq_some_iff.mp hc')]
  exact hne

theorem listed?_congr (mark : Value) (hflags : flags.Alike flags')
    (hdetached : ∀ k, detached.find? k = detached'.find? k) :
    listed? mark flags detached = listed? mark flags' detached' := by
  funext v
  unfold listed? detachedOf
  simp only [Collection.ofEntry_congr hflags, hdetached]

theorem unlisted?_congr (mark : Value) (hflags : flags.Alike flags') {listed listed' : Index}
    (hlisted : ∀ k, listed.find? k = listed'.find? k) :
    unlisted? mark flags listed = unlisted? mark flags' listed' := by
  funext d
  unfold unlisted? Table.contains
  simp only [Collection.ofEntry_congr hflags, hlisted]

/-- Collections under distinct keys may be put in in any order. -/
theorem find?_foldl_place_of_perm {cs cs' : List Collection} (h : cs.Perm cs')
    (hd : (cs.map fun c => c.name.key).Nodup) {ix ix' : Index}
    (hix : ∀ k, ix.find? k = ix'.find? k) (k : Key) :
    (cs.foldl place ix).find? k = (cs'.foldl place ix').find? k := by
  rw [find?_foldl_place, find?_foldl_place, hix]
  refine congrArg (Option.or · _) (Table.lastOf_eq_of_perm (h.map _) ?_ k)
  rw [List.map_map]
  exact hd

variable {schema schema' : Value}

/-- Detached fields are gathered alike, if those of each collection come in the
same order. -/
theorem find?_gathered (h : schema.SchemaReordered schema') (k : Key) :
    (gathered (rawFields schema)).find? k = (gathered (rawFields schema')).find? k := by
  have hfilter : ∀ raw : List RawField,
      ((raw.filterMap fun r => given r.owned?).filter fun p => p.1.key = k)
        = (raw.filter (RawField.ownedBy k)).filterMap fun r => given r.owned? := by
    intro raw
    rw [List.filter_filterMap, List.filterMap_filter]
    refine List.filterMap_congr fun r _ => ?_
    unfold RawField.ownedBy
    cases given r.owned? with
    | none => rfl
    | some p =>
      rw [Option.filter_some, Option.map_some]
      simp only [Option.some.injEq]
  unfold gathered
  rw [find?_foldl_detach, find?_foldl_detach, hfilter, hfilter, h.fieldsOf]

/-- **A schema in another order is indexed alike**, if the names of its
collections are distinct texts. -/
theorem Stages.reordered {listed ix : Index} (h : schema.SchemaReordered schema')
    (hnames : NamesDistinct schema) (hflags : flags.Alike flags')
    (hix : Stages mark flags schema detached listed ix) :
    ∃ detached' listed' ix', Stages mark flags' schema' detached' listed' ix'
      ∧ ∀ k, ix.find? k = ix'.find? k := by
  obtain ⟨howned, rfl, hentries, rfl, hvalues, rfl⟩ := hix
  have hdetached := find?_gathered h
  have hperm := (Table.perm_entries_iff.mpr hdetached).map Prod.snd
  have hlist := listed?_congr mark hflags hdetached
  have hlisted : ∀ k, (listedFrom mark flags (gathered (rawFields schema)) (entriesOf schema)).find? k
      = (listedFrom mark flags' (gathered (rawFields schema')) (entriesOf schema')).find? k := by
    unfold listedFrom
    rw [← hlist]
    exact find?_foldl_place_of_perm (h.entries.filterMap _) (nodup_listed hnames mark flags _)
      fun _ => rfl
  have hunlist := unlisted?_congr mark hflags hlisted
  refine ⟨_, _, _, ⟨?_, rfl, ?_, rfl, ?_, rfl⟩, fun k => ?_⟩
  · exact fun r hr => howned r (h.fields.mem_iff.mpr hr)
  · rw [← hlist]
    exact fun v hv => hentries v (h.entries.mem_iff.mpr hv)
  · rw [← hunlist]
    exact fun d hd => hvalues d (hperm.mem_iff.mpr hd)
  · unfold withUnlisted
    rw [← hunlist]
    exact find?_foldl_place_of_perm (hperm.filterMap _) (nodup_unlisted mark flags _ _) hlisted k

end Index

/-! ## Relations in another order -/

/-- **No two relations address one field** of an index. -/
def Index.AddressedOnce (ix : Index) (rs : List Relation) : Prop :=
  rs.Pairwise fun r r' => ∀ place, ¬ (r.Addresses ix place ∧ r'.Addresses ix place)

theorem Index.frame_eq_of_find? {ix ix' : Index} (h : ∀ k, ix.find? k = ix'.find? k) :
    ix.frame = ix'.frame := by
  funext k
  unfold frame
  rw [h]

theorem Index.AddressedOnce.reordered {ix ix' : Index} {rs rs' : List Relation}
    (h : ix.AddressedOnce rs) (hframe : ix.frame = ix'.frame) (hrs : rs.Perm rs') :
    ix'.AddressedOnce rs' := by
  have haddresses : ∀ r : Relation, r.Addresses ix' = r.Addresses ix := by
    intro r
    funext place
    unfold Relation.Addresses
    simp only [locate_congr (agreeOn_of_frame hframe _)]
  unfold AddressedOnce
  simp only [haddresses]
  exact hrs.pairwise h fun hapart place hboth => hapart place hboth.symm

namespace Linking

/-- The links of a relation are on different fields. -/
theorem nodup_places_linksOn (ix : Index) (r : Relation) :
    ((r.linksOn ix).map Prod.fst).Nodup := by
  unfold Relation.linksOn
  cases hls : linksOf ix r with
  | error m => exact .nil
  | ok ls =>
    show (ls.map Prod.fst).Nodup
    cases hs : r.sides with
    | none =>
      rw [linksOf_of_no_sides ix hs] at hls
      rw [← Except.ok.inj hls]
      exact .nil
    | some s =>
      obtain ⟨one, many, -, hmany, rfl⟩ := (linksOf_ok_iff hs).mp hls
      rcases manySide_ok_iff.mp hmany with ⟨_, -, -, rfl⟩ | ⟨place, key, -, hother, -, rfl⟩
      · cases one with
        | none => exact .nil
        | some one => exact List.nodup_singleton _
      · cases one with
        | none => exact List.nodup_singleton _
        | some one =>
          refine List.nodup_cons.mpr ⟨fun hmem => hother ?_, List.nodup_singleton _⟩
          exact congrArg some (List.mem_singleton.mp hmem)

/-- If no two relations address one field, no two links are on one field. -/
theorem nodup_places {ix : Index} {rs : List Relation} (h : ix.AddressedOnce rs) :
    ((rs.flatMap (Relation.linksOn ix)).map Prod.fst).Nodup := by
  rw [List.map_flatMap, List.nodup_flatMap]
  refine ⟨fun r _ => nodup_places_linksOn ix r, h.imp fun hapart place hr hr' => ?_⟩
  obtain ⟨l, hl, rfl⟩ := List.mem_map.mp hr
  obtain ⟨l', hl', hsame⟩ := List.mem_map.mp hr'
  exact hapart l.1 ⟨Relation.addresses_of_mem_linksOn hl,
    hsame ▸ Relation.addresses_of_mem_linksOn hl'⟩

/-- **Relations in another order put on the same links**, if no two of them
address one field. -/
theorem resolve_reordered {ix ix' : Index} (hix : ∀ k, ix.find? k = ix'.find? k)
    {rs rs' : List Relation} (hrs : rs.Perm rs') (hapart : ix.AddressedOnce rs)
    (hfault : (resolve ix rs).fault = none) :
    (resolve ix' rs').fault = none
      ∧ ∀ k, (resolve ix rs).index.find? k = (resolve ix' rs').index.find? k := by
  have hlinksOf := linksOf_eq_of_frame (Index.frame_eq_of_find? hix)
  have hlinksOn : Relation.linksOn ix = Relation.linksOn ix' := by
    unfold Relation.linksOn
    rw [hlinksOf]
  have hfault' : (resolve ix' rs').fault = none := by
    rw [fault_resolve_iff] at hfault ⊢
    rw [← hlinksOf]
    exact fun r hr => hfault r (hrs.mem_iff.mpr hr)
  refine ⟨hfault', fun k => ?_⟩
  have hlast := Table.lastOf_eq_of_perm (hrs.flatMap_right (Relation.linksOn ix))
    (nodup_places hapart)
  rw [index_resolve hfault, index_resolve hfault', Index.find?_linked, Index.find?_linked, hix,
    ← hlinksOn]
  refine Option.map_congr fun c _ => ?_
  unfold Collection.linked
  simp only [hlast]

end Linking

end CollectionTypes
