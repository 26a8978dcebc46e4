import CollectionTypes.Generation
import CollectionTypes.Proofs.Schema.OutlineIndex

/-!
# The indexes of both shapes

The index of an overview has all collections of the outline, in their order.
The index of a snapshot has the project's collections first, and after them
those of the host's that the project added fields to: it is the fields beside
the collections that tell of them.
-/

namespace CollectionTypes

open Outcome

/-! ## Fields beside the collections -/

namespace CollectionOutline

variable {mark : String}

/-- The key that the collection stands under. -/
def key (c : CollectionOutline) : Key :=
  .text c.name

/-- What a snapshot says about the fields of the collection. -/
def detached (mark : String) (c : CollectionOutline) : Detached :=
  ⟨.text c.name, (c.snapshotFields mark).map (FieldOutline.rawBeside c)⟩

theorem addDetached_beside (c : CollectionOutline) (f : FieldOutline) (t : Table Key Detached) :
    addDetached t (f.rawBeside c)
      = .ok (if t.contains c.key then
          t.modify c.key fun d => { d with fields := d.fields ++ [f.rawBeside c] }
        else t.insert c.key ⟨.text c.name, [f.rawBeside c]⟩) := by
  unfold addDetached
  rw [show Value.get (f.rawBeside c).members "collection" = .text c.name from rfl,
    Name.ofPresent_text c.name_ne]
  show (if t.contains c.key = true then pure _ else pure _ : Except Misuse (Table Key Detached))
    = _
  split <;> rfl

/-- The fields of a collection come together under its name. -/
theorem foldlM_addDetached_more (c : CollectionOutline) (fs done : List FieldOutline)
    (t : Table Key Detached) :
    (fs.map (FieldOutline.rawBeside c)).foldlM addDetached
        (t.insert c.key ⟨.text c.name, done.map (FieldOutline.rawBeside c)⟩)
      = .ok (t.insert c.key ⟨.text c.name, (done ++ fs).map (FieldOutline.rawBeside c)⟩) := by
  induction fs generalizing done with
  | nil => rw [List.append_nil]; rfl
  | cons f fs ih =>
    have hthere : (t.insert c.key ⟨.text c.name,
        done.map (FieldOutline.rawBeside c)⟩).contains c.key = true := by
      unfold Table.contains
      rw [Table.find?_insert, if_pos rfl]
      rfl
    rw [List.map_cons, List.foldlM_cons, addDetached_beside, if_pos hthere, Table.modify_insert]
    have h := ih (done ++ [f])
    rw [List.map_append, List.append_assoc] at h
    exact h

theorem foldlM_addDetached (c : CollectionOutline) (fs : List FieldOutline)
    {t : Table Key Detached} (hnew : c.key ∉ t.keys) :
    (fs.map (FieldOutline.rawBeside c)).foldlM addDetached t
      = .ok (if fs.isEmpty then t
        else t.insert c.key ⟨.text c.name, fs.map (FieldOutline.rawBeside c)⟩) := by
  cases fs with
  | nil => rfl
  | cons f fs =>
    have habsent : ¬ t.contains c.key = true := fun h =>
      hnew (Table.contains_iff_mem_keys.mp h)
    rw [List.map_cons, List.foldlM_cons, addDetached_beside, if_neg habsent]
    exact foldlM_addDetached_more c fs [f] t

/-- Whether a snapshot knows a field of the collection. -/
def isDetached (mark : String) (c : CollectionOutline) : Bool :=
  !(c.snapshotFields mark).isEmpty

/-- **The fields beside the collections** are those of each collection that
has any, in the order of the collections. -/
theorem foldlM_addDetached_flatMap (mark : String) (cs : List CollectionOutline)
    {t : Table Key Detached} (hd : (t.keys ++ cs.map key).Nodup) :
    (cs.flatMap fun c => (c.snapshotFields mark).map (FieldOutline.rawBeside c)).foldlM
        addDetached t
      = .ok ((cs.filter (isDetached mark)).foldl
          (fun t c => t.insert c.key (c.detached mark)) t) := by
  induction cs generalizing t with
  | nil => rfl
  | cons c cs ih =>
    rw [List.map_cons, List.nodup_append] at hd
    obtain ⟨ht, hcs, hdisjoint⟩ := hd
    have hnew : c.key ∉ t.keys := fun h => hdisjoint _ h _ List.mem_cons_self rfl
    have hrest : (t.keys ++ cs.map key).Nodup :=
      List.nodup_append.mpr ⟨ht, (List.nodup_cons.mp hcs).2,
        fun a ha b hb => hdisjoint a ha b (List.mem_cons_of_mem _ hb)⟩
    have hinserted : ((t.insert c.key (c.detached mark)).keys ++ cs.map key).Nodup := by
      rw [Table.keys_insert, if_neg hnew, List.append_assoc, List.nodup_append]
      exact ⟨ht, hcs, hdisjoint⟩
    rw [List.flatMap_cons, List.foldlM_append, foldlM_addDetached c _ hnew, List.filter_cons]
    unfold isDetached
    -- a collection without fields leaves no trace
    cases (c.snapshotFields mark).isEmpty with
    | true => exact ih hrest
    | false => exact ih hinserted

/-! ## One more collection -/

theorem ofValue_overviewEntry (c : CollectionOutline) :
    Listing.ofValue (.object c.overviewEntry) = .collection (.text c.name) c.overviewEntry := by
  have hname : (Value.text c.name).truthy = true := bne_iff_ne.mpr c.name_ne
  show (if !(Value.text c.name).truthy then Listing.nameless
    else if false then .folder (.text c.name) else .collection (.text c.name) c.overviewEntry) = _
  rw [hname]
  rfl

theorem ofValue_snapshotEntry (c : CollectionOutline) :
    Listing.ofValue (.object c.snapshotEntry) = .collection (.text c.name) c.snapshotEntry := by
  have hname : (Value.text c.name).truthy = true := bne_iff_ne.mpr c.name_ne
  show (if !(Value.text c.name).truthy then Listing.nameless
    else if false then .folder (.text c.name) else .collection (.text c.name) c.snapshotEntry) = _
  rw [hname]
  rfl

/-- **An entry of an overview** puts the collection into the index. -/
theorem outcome_addEntry_overview (mark : String) (c : CollectionOutline) (ix : Index) :
    (Index.addEntry (.text mark) Table.empty Table.empty ix (.object c.overviewEntry)).outcome
      = .ok (ix.insert c.key (c.collection mark)) := by
  unfold Index.addEntry
  rw [c.ofValue_overviewEntry]
  show Index.addListed (.text mark) Table.empty Table.empty ix (.text c.name) c.overviewEntry = _
  have hraw : RawField.ofValue (Value.get c.overviewEntry "fields")
      ++ detachedOf Table.empty (.text c.name) = c.fields.map FieldOutline.rawInside := by
    rw [show Value.get c.overviewEntry "fields" = .object (c.fields.map FieldOutline.inside)
      from rfl, ofValue_inside]
    exact List.append_nil _
  refine bind_ok_iff.mpr ⟨_, rfl, bind_ok_iff.mpr ⟨c.collection mark, ?_, rfl⟩⟩
  rw [hraw]
  exact c.ofEntry_overview mark

/-- **An entry of a snapshot** puts the collection into the index, with the
fields beside it. -/
theorem outcome_addEntry_snapshot {c : CollectionOutline} {t : Table Key Detached}
    (hproject : c.isHost mark = false) (ht : t.find? c.key = some (c.detached mark))
    (ix : Index) :
    (Index.addEntry (.text mark) Table.empty t ix (.object c.snapshotEntry)).outcome
      = .ok (ix.insert c.key (c.collection mark)) := by
  unfold Index.addEntry
  rw [c.ofValue_snapshotEntry]
  show Index.addListed (.text mark) Table.empty t ix (.text c.name) c.snapshotEntry = _
  have hraw : RawField.ofValue (Value.get c.snapshotEntry "fields")
      ++ detachedOf t (.text c.name) = c.fields.map (FieldOutline.rawBeside c) := by
    show [] ++ ((t.find? c.key).map Detached.fields).getD [] = _
    rw [ht, List.nil_append]
    show (c.snapshotFields mark).map _ = _
    rw [snapshotFields, hproject]
    rfl
  refine bind_ok_iff.mpr ⟨_, rfl, bind_ok_iff.mpr ⟨c.collection mark, ?_, rfl⟩⟩
  rw [hraw]
  exact c.ofEntry_snapshot mark

/-- **Fields of the host** put the collection into the index that they tell
of. -/
theorem outcome_addUnlisted_host {c : CollectionOutline} {ix : Index}
    (hhost : c.isHost mark = true) (hprimary : c.primary = "id") (hnew : c.key ∉ ix.keys) :
    (Index.addUnlisted (.text mark) Table.empty ix (c.detached mark)).outcome
      = .ok (ix.insert c.key c.recovered) := by
  have habsent : ¬ ix.contains c.key = true := fun h =>
    hnew (Table.contains_iff_mem_keys.mp h)
  have hfields : (c.detached mark).fields = c.ownFields.map (FieldOutline.rawBeside c) := by
    show (c.snapshotFields mark).map _ = _
    rw [snapshotFields, hhost]
    rfl
  have hentry := ofEntry_recovered hhost hprimary
  rw [← hfields] at hentry
  unfold Index.addUnlisted
  rw [show (c.detached mark).owner.key = c.key from rfl, if_neg habsent, Traced.outcome_bind]
  refine bind_ok_iff.mpr ⟨true, hhost ▸ c.isMarkedOf_name mark, ?_⟩
  rw [if_pos rfl, Traced.outcome_bind]
  refine bind_ok_iff.mpr ⟨(), rfl, ?_⟩
  rw [Traced.outcome_bind]
  exact bind_ok_iff.mpr ⟨c.recovered, hentry, rfl⟩

theorem outcome_addUnlisted_listed {c : CollectionOutline} {ix : Index} (h : c.key ∈ ix.keys) :
    (Index.addUnlisted (.text mark) Table.empty ix (c.detached mark)).outcome = .ok ix := by
  unfold Index.addUnlisted
  rw [show (c.detached mark).owner.key = c.key from rfl,
    if_pos (Table.contains_iff_mem_keys.mpr h)]
  rfl

end CollectionOutline

/-! ## All collections -/

namespace Outline

open CollectionOutline

variable {mark : String}

theorem keys_nodup (o : Outline) : (o.collections.map key).Nodup := by
  have h := List.Nodup.map (f := Key.text) (fun _ _ h => Key.text.inj h) o.distinct
  rw [List.map_map] at h
  exact h

/-- **The index of the outline as an overview.** -/
def overviewIndex (mark : String) (o : Outline) : Index :=
  o.collections.foldl (fun ix c => ix.insert c.key (c.collection mark)) Table.empty

theorem entries_overviewIndex (mark : String) (o : Outline) :
    (o.overviewIndex mark).entries = o.collections.map fun c => (c.key, c.collection mark) :=
  Table.entries_foldl_insert (t := Table.empty) o.keys_nodup

/-- The project's collections in the index of a snapshot. -/
def listedIndex (mark : String) (o : Outline) : Index :=
  (o.listed mark).foldl (fun ix c => ix.insert c.key (c.collection mark)) Table.empty

theorem entries_listedIndex (mark : String) (o : Outline) :
    (o.listedIndex mark).entries = (o.listed mark).map fun c => (c.key, c.collection mark) :=
  Table.entries_foldl_insert (t := Table.empty)
    (o.keys_nodup.sublist (List.filter_sublist.map key))

/-- The host's collections that the project added fields to. -/
def extended (mark : String) (o : Outline) : List CollectionOutline :=
  (o.collections.filter (isDetached mark)).filter (isHost mark)

/-- **The index of the outline as a snapshot.** -/
def snapshotIndex (mark : String) (o : Outline) : Index :=
  (o.extended mark).foldl (fun ix c => ix.insert c.key c.recovered) (o.listedIndex mark)

theorem mem_listed {o : Outline} {c : CollectionOutline} :
    c ∈ o.listed mark ↔ c ∈ o.collections ∧ c.isHost mark = false := by
  unfold listed
  rw [List.mem_filter, Bool.not_eq_true']

/-- A listed collection and one of the host's have different keys. -/
theorem key_ne_of_listed {o : Outline} {c c' : CollectionOutline} (hc : c ∈ o.listed mark)
    (hc' : c' ∈ o.collections) (hhost : c'.isHost mark = true) : c.key ≠ c'.key := by
  obtain ⟨hmem, hproject⟩ := mem_listed.mp hc
  intro h
  rw [List.inj_on_of_nodup_map o.keys_nodup hmem hc' h, hhost] at hproject
  cases hproject

theorem keys_listedIndex (mark : String) (o : Outline) :
    (o.listedIndex mark).keys = (o.listed mark).map key := by
  unfold Table.keys
  rw [entries_listedIndex, List.map_map]
  rfl

theorem keys_listed_extended (mark : String) (o : Outline) :
    ((o.listedIndex mark).keys ++ (o.extended mark).map key).Nodup := by
  have hextended : (o.extended mark).Sublist o.collections :=
    List.filter_sublist.trans List.filter_sublist
  rw [keys_listedIndex, List.nodup_append]
  refine ⟨o.keys_nodup.sublist (List.filter_sublist.map key),
    o.keys_nodup.sublist (hextended.map key), ?_⟩
  rintro k hk k' hk' rfl
  obtain ⟨c, hc, rfl⟩ := List.mem_map.mp hk
  obtain ⟨c', hc', hsame⟩ := List.mem_map.mp hk'
  exact key_ne_of_listed hc (hextended.subset hc') (List.mem_filter.mp hc').2 hsame.symm

theorem entries_snapshotIndex (mark : String) (o : Outline) :
    (o.snapshotIndex mark).entries
      = (o.listed mark).map (fun c => (c.key, c.collection mark))
        ++ (o.extended mark).map fun c => (c.key, c.recovered) := by
  rw [← entries_listedIndex]
  exact Table.entries_foldl_insert (o.keys_listed_extended mark)

/-- **Indexing an overview** cannot fail. -/
theorem ofSchema_overview (mark : String) (o : Outline) :
    (Index.ofSchema (.text mark) Table.empty o.overview).outcome
      = .ok (o.overviewIndex mark) := by
  have hentries : (rows "collection" (.object (o.collections.map fun c =>
      (c.name, Value.object c.overviewEntry)))).map Prod.snd
        = o.collections.map fun c => .object c.overviewEntry := by
    unfold rows
    rw [List.map_map, List.map_map]
    rfl
  have hlisted : ((rows "collection" (.object (o.collections.map fun c =>
      (c.name, Value.object c.overviewEntry)))).map Prod.snd).foldlM
      (fun ix v => (Index.addEntry (.text mark) Table.empty Table.empty ix v).outcome)
      Table.empty = .ok (o.overviewIndex mark) := by
    rw [hentries, List.foldlM_map]
    exact foldlM_ok (fun ix c _ => c.outcome_addEntry_overview mark ix) Table.empty
  show (Index.ofMembers (.text mark) Table.empty _).outcome = _
  unfold Index.ofMembers
  rw [Traced.outcome_bind]
  -- nothing stands beside the collections of an overview
  refine bind_ok_iff.mpr ⟨Table.empty, rfl, ?_⟩
  dsimp only
  rw [Traced.outcome_bind, Traced.outcome_foldlM]
  exact bind_ok_iff.mpr ⟨o.overviewIndex mark, hlisted, rfl⟩

/-! ## A snapshot -/

/-- The fields beside the collections, by their collections. -/
def detachedTable (mark : String) (o : Outline) : Table Key Detached :=
  (o.collections.filter (isDetached mark)).foldl
    (fun t c => t.insert c.key (c.detached mark)) Table.empty

theorem entries_detachedTable (mark : String) (o : Outline) :
    (o.detachedTable mark).entries
      = (o.collections.filter (isDetached mark)).map fun c => (c.key, c.detached mark) :=
  Table.entries_foldl_insert (t := Table.empty)
    (o.keys_nodup.sublist (List.filter_sublist.map key))

theorem detachedFields_snapshot (mark : String) (o : Outline) {ms : List (String × Value)}
    (hfields : Value.get ms "fields" = .list (o.collections.flatMap fun c =>
      (c.snapshotFields mark).map (FieldOutline.beside c))) :
    detachedFields ms = .ok (o.detachedTable mark) := by
  have hraw : RawField.ofValue (.list (o.collections.flatMap fun c =>
      (c.snapshotFields mark).map (FieldOutline.beside c)))
        = o.collections.flatMap fun c =>
          (c.snapshotFields mark).map (FieldOutline.rawBeside c) := by
    induction o.collections with
    | nil => rfl
    | cons c cs ih =>
      rw [List.flatMap_cons, List.flatMap_cons, ← ih, ← ofValue_beside]
      unfold RawField.ofValue rows
      dsimp only
      rw [List.map_append, List.filterMap_append]
  unfold detachedFields
  rw [hfields, hraw]
  exact foldlM_addDetached_flatMap mark o.collections o.keys_nodup

/-- A collection of the project has its fields beside it. -/
theorem find?_detachedTable {o : Outline} {c : CollectionOutline} (hc : c ∈ o.listed mark) :
    (o.detachedTable mark).find? c.key = some (c.detached mark) := by
  obtain ⟨hmem, hproject⟩ := mem_listed.mp hc
  have hdetached : c.isDetached mark = true := by
    rw [isDetached, snapshotFields, hproject, Bool.not_eq_true', List.isEmpty_eq_false_iff]
    intro hempty
    have hprimary := c.primary_mem
    rw [show c.fields = [] from hempty] at hprimary
    exact List.not_mem_nil hprimary
  rw [Table.find?_eq_some_iff, entries_detachedTable]
  exact List.mem_map.mpr ⟨c, List.mem_filter.mpr ⟨hmem, hdetached⟩, rfl⟩

/-- The host's collections are taken up from their fields, and the project's
are known already. -/
theorem foldlM_addUnlisted {cs : List CollectionOutline} {ix : Index}
    (hd : (cs.map key).Nodup)
    (hlisted : ∀ c ∈ cs, c.isHost mark = false → c.key ∈ ix.keys)
    (hnew : ∀ c ∈ cs, c.isHost mark = true → c.key ∉ ix.keys)
    (hid : ∀ c ∈ cs, c.isHost mark = true → c.primary = "id") :
    (cs.map (detached mark)).foldlM
        (fun ix d => (Index.addUnlisted (.text mark) Table.empty ix d).outcome) ix
      = .ok ((cs.filter (isHost mark)).foldl (fun ix c => ix.insert c.key c.recovered) ix) := by
  induction cs generalizing ix with
  | nil => rfl
  | cons c cs ih =>
    rw [List.map_cons, List.nodup_cons] at hd
    rw [List.forall_mem_cons] at hlisted hnew hid
    rw [List.map_cons, List.foldlM_cons, List.filter_cons]
    cases hhost : c.isHost mark with
    | false =>
      rw [outcome_addUnlisted_listed (hlisted.1 hhost)]
      exact ih hd.2 hlisted.2 hnew.2 hid.2
    | true =>
      have hfresh := hnew.1 hhost
      have hkeys : (ix.insert c.key c.recovered).keys = ix.keys ++ [c.key] := by
        rw [Table.keys_insert, if_neg hfresh]
      rw [outcome_addUnlisted_host hhost (hid.1 hhost) hfresh]
      -- the key that is new now is not that of a collection to come
      refine ih hd.2 (fun c' hc' h => ?_) (fun c' hc' h => ?_) hid.2
      · rw [hkeys]
        exact List.mem_append_left _ (hlisted.2 c' hc' h)
      · rw [hkeys, List.mem_append, not_or, List.mem_singleton]
        exact ⟨hnew.2 c' hc' h, fun hsame => hd.1 (List.mem_map.mpr ⟨c', hc', hsame⟩)⟩

/-- **Indexing a snapshot** cannot fail, if the outline fits the mark. -/
theorem ofSchema_snapshot {o : Outline} (ho : o.Fits mark) :
    (Index.ofSchema (.text mark) Table.empty (o.snapshot mark)).outcome
      = .ok (o.snapshotIndex mark) := by
  have hentries : (rows "collection" (.list ((o.listed mark).map fun c =>
      Value.object c.snapshotEntry))).map Prod.snd
        = (o.listed mark).map fun c => .object c.snapshotEntry := by
    unfold rows
    dsimp only
    rw [List.map_map, List.map_map]
    rfl
  have hlisted : ((rows "collection" (.list ((o.listed mark).map fun c =>
      Value.object c.snapshotEntry))).map Prod.snd).foldlM
      (fun ix v => (Index.addEntry (.text mark) Table.empty (o.detachedTable mark) ix v).outcome)
      Table.empty = .ok (o.listedIndex mark) := by
    rw [hentries, List.foldlM_map]
    exact foldlM_ok (fun ix c hc => outcome_addEntry_snapshot (mem_listed.mp hc).2
      (find?_detachedTable hc) ix) Table.empty
  have hsub : (o.collections.filter (isDetached mark)).Sublist o.collections :=
    List.filter_sublist
  have hunlisted : (o.detachedTable mark).values.foldlM
      (fun ix d => (Index.addUnlisted (.text mark) Table.empty ix d).outcome)
      (o.listedIndex mark) = .ok (o.snapshotIndex mark) := by
    have hvalues : (o.detachedTable mark).values
        = (o.collections.filter (isDetached mark)).map (detached mark) := by
      unfold Table.values
      rw [entries_detachedTable, List.map_map]
      rfl
    rw [hvalues]
    -- all of the project's collections are listed, and none of the host's
    refine foldlM_addUnlisted (o.keys_nodup.sublist (hsub.map key)) (fun c hc h => ?_)
      (fun c hc h => ?_) fun c hc h => (ho c (hsub.subset hc) h).1
    · rw [keys_listedIndex]
      exact List.mem_map_of_mem (mem_listed.mpr ⟨hsub.subset hc, h⟩)
    · rw [keys_listedIndex]
      intro hkey
      obtain ⟨c', hc', hsame⟩ := List.mem_map.mp hkey
      exact key_ne_of_listed hc' (hsub.subset hc) h hsame
  show (Index.ofMembers (.text mark) Table.empty _).outcome = _
  unfold Index.ofMembers
  rw [Traced.outcome_bind]
  refine bind_ok_iff.mpr ⟨o.detachedTable mark, o.detachedFields_snapshot mark rfl, ?_⟩
  dsimp only
  rw [Traced.outcome_bind, Traced.outcome_foldlM]
  refine bind_ok_iff.mpr ⟨o.listedIndex mark, hlisted, ?_⟩
  rw [Traced.outcome_bind, Traced.outcome_foldlM]
  exact bind_ok_iff.mpr ⟨o.snapshotIndex mark, hunlisted, rfl⟩

/-! ## Relations -/

theorem ofMembers_toValue (r : RelationOutline) :
    r.toValue.members?.map Relation.ofMembers = some r.relation := by
  obtain ⟨field, collection, related, foreignKey, sides⟩ := r
  cases sides <;> rfl

/-- **The relations of an outline are read as they are**, whatever else a
schema has. -/
theorem ofSchema_relationsValue {o : Outline} {ms : List (String × Value)}
    (h : Value.get ms "relations" = o.relationsValue) :
    Relation.ofSchema (.object ms) = .ok (o.relations.map RelationOutline.relation) := by
  have helements : (o.relationsValue.orElse (.list [])).elements
      = .ok (o.relations.map RelationOutline.toValue) := by
    unfold relationsValue
    cases o.relations <;> rfl
  show (do
    let vs ← ((Value.get ms "relations").orElse (.list [])).elements
    pure (vs.filterMap fun v => v.members?.map Relation.ofMembers) : Except Misuse _) = _
  rw [h, helements]
  show Except.ok ((o.relations.map RelationOutline.toValue).filterMap
    fun v => v.members?.map Relation.ofMembers) = _
  rw [List.filterMap_map]
  refine congrArg _ ?_
  rw [show (fun v => v.members?.map Relation.ofMembers) ∘ RelationOutline.toValue
    = some ∘ RelationOutline.relation from funext ofMembers_toValue]
  exact congrFun List.filterMap_eq_map o.relations

end Outline

end CollectionTypes
