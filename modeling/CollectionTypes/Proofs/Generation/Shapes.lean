import CollectionTypes.Proofs.Generation.Outlined

/-!
# Both shapes of a schema have one document

An overview and a snapshot of one outline are indexed differently: a snapshot
does not know what the host platform owns. But what is visible of the two
indexes is the same, up to the order of the collections
(`Outline.visible_perm`), and so are the primary keys that texts name
(`Outline.primaryOfText_snapshotIndex`). Linking keeps it that way, and a
document sees no more. So both shapes have one document
(`overview_and_snapshot_agree`).
-/

namespace CollectionTypes

open Outcome

/-! ## Linking what is visible -/

namespace RelationOutline

theorem visible_attach? (ix : Index) (place : Option FieldPlace) (l : Link) :
    (ix.attach? place l).visible = ix.visible.attach? place l := by
  cases place with
  | none => rfl
  | some p => exact ix.visible_attach p l

theorem visible_linkOn (primary : Option String → Value) (ix : Index) (r : RelationOutline) :
    (linkOn primary ix r).visible = linkOn primary ix.visible r := by
  unfold linkOn
  split
  · rfl
  · dsimp only
    split
    · rw [visible_attach?]
    · rw [visible_attach?, visible_attach?]

/-- Relations do to what is visible what they do to all. -/
theorem visible_foldl_linkOn (primary : Option String → Value) (rs : List RelationOutline)
    (ix : Index) :
    (rs.foldl (linkOn primary) ix).visible = rs.foldl (linkOn primary) ix.visible := by
  induction rs generalizing ix with
  | nil => rfl
  | cons r rs ih => rw [List.foldl_cons, List.foldl_cons, ih, visible_linkOn]

theorem attach?_perm {ix ix' : Index} (h : ix.entries.Perm ix'.entries)
    (place : Option FieldPlace) (l : Link) :
    (ix.attach? place l).entries.Perm (ix'.attach? place l).entries := by
  cases place with
  | none => exact h
  | some p =>
    show (ix.modify p.1 _).entries.Perm (ix'.modify p.1 _).entries
    rw [Table.entries_modify, Table.entries_modify]
    exact h.map _

theorem linkOn_perm {ix ix' : Index} (h : ix.entries.Perm ix'.entries)
    (primary : Option String → Value) (r : RelationOutline) :
    (linkOn primary ix r).entries.Perm (linkOn primary ix' r).entries := by
  unfold linkOn
  split
  · exact h
  · dsimp only
    split
    · exact attach?_perm h _ _
    · exact attach?_perm (attach?_perm h _ _) _ _

/-- Relations do the same to collections in any order. -/
theorem foldl_linkOn_perm {ix ix' : Index} (h : ix.entries.Perm ix'.entries)
    (primary : Option String → Value) (rs : List RelationOutline) :
    (rs.foldl (linkOn primary) ix).entries.Perm (rs.foldl (linkOn primary) ix').entries := by
  induction rs generalizing ix ix' with
  | nil => exact h
  | cons r rs ih => exact ih (linkOn_perm h primary r)

end RelationOutline

/-! ## What is visible of both shapes -/

namespace CollectionOutline

variable {mark : String} {c : CollectionOutline}

theorem values_fieldTable {fs : List FieldOutline} (hd : (fs.map FieldOutline.name).Nodup) :
    (fieldTable fs).values = fs.map FieldOutline.field := by
  unfold Table.values
  rw [entries_fieldTable hd, List.map_map]
  rfl

theorem nodup_ownFields (c : CollectionOutline) :
    (c.ownFields.map FieldOutline.name).Nodup :=
  c.distinct.sublist (List.filter_sublist.map FieldOutline.name)

theorem any_values_fieldTable {fs : List FieldOutline}
    (hd : (fs.map FieldOutline.name).Nodup) :
    ((fieldTable fs).values.any fun f => !f.system)
      = !(fs.filter fun f => !f.system).isEmpty := by
  rw [values_fieldTable hd, List.any_map, Bool.eq_iff_iff, List.any_eq_true,
    Bool.not_eq_true', List.isEmpty_eq_false_iff_exists_mem]
  simp only [List.mem_filter]
  rfl

/-- A collection of the outline is shown if the project has any part in it. -/
theorem isShown_collection (mark : String) (c : CollectionOutline) :
    (c.collection mark).isShown = (!c.isHost mark || c.isDetached mark) := by
  have hcustom : (c.collection mark).hasCustomFields = !c.ownFields.isEmpty :=
    any_values_fieldTable c.distinct
  unfold Collection.isShown isDetached snapshotFields
  rw [hcustom]
  show (!c.isHost mark || _) = _
  cases c.isHost mark <;> rfl

theorem isShown_recovered (hhost : c.isHost mark = true) (hdetached : c.isDetached mark = true) :
    c.recovered.isShown = true := by
  have hown : (c.ownFields.filter fun f => !f.system) = c.ownFields :=
    List.filter_eq_self.mpr fun f hf => (List.mem_filter.mp hf).2
  have hcustom : c.recovered.hasCustomFields = !c.ownFields.isEmpty := by
    rw [← hown]
    exact any_values_fieldTable c.nodup_ownFields
  unfold isDetached snapshotFields at hdetached
  rw [hhost, if_pos rfl] at hdetached
  unfold Collection.isShown
  rw [hcustom, hdetached, Bool.or_true]

/-- **What is visible of a collection of the host** a snapshot knows. -/
theorem visible_recovered (hhost : c.isHost mark = true) (hprimary : c.primary = "id")
    (hmany : c.singleton = false) : (c.collection mark).visible = c.recovered.visible := by
  have hfields : (fieldTable c.fields).only (fun f => !f.system)
      = (fieldTable c.ownFields).only fun f => !f.system := by
    apply Table.ext
    rw [Table.entries_only, Table.entries_only, entries_fieldTable c.distinct,
      entries_fieldTable c.nodup_ownFields, List.filter_map, List.filter_map]
    unfold ownFields
    rw [List.filter_filter]
    -- the host's fields are left out once, or once more
    refine congrArg _ (List.filter_congr fun f _ => ?_)
    exact (Bool.and_self _).symm
  unfold collection recovered Collection.visible
  dsimp only
  rw [hhost, if_pos rfl, if_pos rfl, hfields, hprimary, hmany]
  rfl

end CollectionOutline

namespace Outline

open CollectionOutline

variable {mark : String} {o : Outline}

/-- What is visible of entries. -/
def visibleEntries (es : List (Key × Collection)) : List (Key × Collection) :=
  (es.filter fun e => e.2.isShown).map fun e => (e.1, e.2.visible)

theorem entries_visible (ix : Index) : ix.visible.entries = visibleEntries ix.entries := rfl

theorem mem_extended {c : CollectionOutline} :
    c ∈ o.extended mark
      ↔ c ∈ o.collections ∧ c.isDetached mark = true ∧ c.isHost mark = true := by
  unfold extended
  rw [List.mem_filter, List.mem_filter, and_assoc]

theorem visibleEntries_overview (mark : String) (o : Outline) :
    visibleEntries (o.overviewIndex mark).entries
      = (o.collections.filter fun c => !c.isHost mark || c.isDetached mark).map fun c =>
          (c.key, (c.collection mark).visible) := by
  have hshown : (o.collections.filter fun c => (c.collection mark).isShown)
      = o.collections.filter fun c => !c.isHost mark || c.isDetached mark :=
    List.filter_congr fun c _ => isShown_collection mark c
  unfold visibleEntries
  rw [entries_overviewIndex, List.filter_map, List.map_map, ← hshown]
  rfl

theorem visibleEntries_snapshot (ho : o.Fits mark) :
    visibleEntries (o.snapshotIndex mark).entries
      = (o.listed mark ++ o.extended mark).map fun c =>
          (c.key, (c.collection mark).visible) := by
  -- whatever a snapshot tells of is shown
  have hall : ∀ e ∈ (o.snapshotIndex mark).entries, e.2.isShown = true := by
    rw [entries_snapshotIndex]
    intro e he
    rcases List.mem_append.mp he with he | he
    · obtain ⟨c, hc, rfl⟩ := List.mem_map.mp he
      show (c.collection mark).isShown = true
      rw [isShown_collection, (mem_listed.mp hc).2]
      rfl
    · obtain ⟨c, hc, rfl⟩ := List.mem_map.mp he
      obtain ⟨-, hdetached, hhost⟩ := mem_extended.mp hc
      exact isShown_recovered hhost hdetached
  unfold visibleEntries
  rw [List.filter_eq_self.mpr hall, entries_snapshotIndex, List.map_append, List.map_map,
    List.map_map, List.map_append]
  refine congrArg _ (List.map_congr_left fun c hc => ?_)
  obtain ⟨hmem, -, hhost⟩ := mem_extended.mp hc
  obtain ⟨hprimary, hmany⟩ := ho c hmem hhost
  rw [visible_recovered hhost hprimary hmany]
  rfl

/-- **What is visible of both shapes is the same**, up to the order of the
collections. -/
theorem visible_perm (ho : o.Fits mark) :
    (o.overviewIndex mark).visible.entries.Perm (o.snapshotIndex mark).visible.entries := by
  rw [entries_visible, entries_visible, visibleEntries_overview, visibleEntries_snapshot ho]
  refine List.Perm.map _ ?_
  have hsplit := List.filter_append_perm (fun c => !c.isHost mark)
    (o.collections.filter fun c => !c.isHost mark || c.isDetached mark)
  rw [List.filter_filter, List.filter_filter] at hsplit
  refine hsplit.symm.trans (List.Perm.of_eq ?_)
  unfold listed extended
  rw [List.filter_filter]
  refine congrArg₂ _ (List.filter_congr fun c _ => ?_) (List.filter_congr fun c _ => ?_)
  · cases c.isHost mark <;> cases c.isDetached mark <;> rfl
  · cases c.isHost mark <;> cases c.isDetached mark <;> rfl

theorem find?_overviewIndex {c : CollectionOutline} (hc : c ∈ o.collections) :
    (o.overviewIndex mark).find? c.key = some (c.collection mark) := by
  rw [Table.find?_eq_some_iff, entries_overviewIndex]
  exact List.mem_map.mpr ⟨c, hc, rfl⟩

theorem mem_keys_snapshotIndex {k : Key} :
    k ∈ (o.snapshotIndex mark).keys
      ↔ ∃ c ∈ o.collections, c.key = k ∧ (c.isHost mark = true → c.isDetached mark = true) := by
  unfold Table.keys
  rw [entries_snapshotIndex, List.map_append, List.map_map, List.map_map, List.mem_append,
    List.mem_map, List.mem_map]
  constructor
  · rintro (⟨c, hc, rfl⟩ | ⟨c, hc, rfl⟩)
    · obtain ⟨hmem, hproject⟩ := mem_listed.mp hc
      exact ⟨c, hmem, rfl, fun hhost => absurd (hproject ▸ hhost) Bool.false_ne_true⟩
    · obtain ⟨hmem, hdetached, -⟩ := mem_extended.mp hc
      exact ⟨c, hmem, rfl, fun _ => hdetached⟩
  · rintro ⟨c, hmem, rfl, hdetached⟩
    cases hhost : c.isHost mark with
    | false => exact .inl ⟨c, mem_listed.mpr ⟨hmem, hhost⟩, rfl⟩
    | true => exact .inr ⟨c, mem_extended.mpr ⟨hmem, hdetached hhost, hhost⟩, rfl⟩

/-- What a snapshot knows of a collection has the primary key of the
collection. -/
theorem primary_of_find?_snapshotIndex (ho : o.Fits mark) {c : CollectionOutline}
    (hc : c ∈ o.collections) {c' : Collection}
    (h : (o.snapshotIndex mark).find? c.key = some c') : c'.primary = .text c.primary := by
  rw [Table.find?_eq_some_iff, entries_snapshotIndex] at h
  rcases List.mem_append.mp h with h | h
  · obtain ⟨d, hd, hsame⟩ := List.mem_map.mp h
    obtain ⟨hkey, rfl⟩ := Prod.mk.inj hsame
    rw [List.inj_on_of_nodup_map o.keys_nodup (mem_listed.mp hd).1 hc hkey]
    rfl
  · obtain ⟨d, hd, hsame⟩ := List.mem_map.mp h
    obtain ⟨hkey, rfl⟩ := Prod.mk.inj hsame
    obtain ⟨hmem, -, hhost⟩ := mem_extended.mp hd
    rw [← List.inj_on_of_nodup_map o.keys_nodup hmem hc hkey, (ho d hmem hhost).1]
    rfl

/-- **Both shapes name the same primary keys.** -/
theorem primaryOfText_snapshotIndex (ho : o.Fits mark) :
    (o.snapshotIndex mark).primaryOfText = (o.overviewIndex mark).primaryOfText := by
  have hfind : ∀ k, (((o.snapshotIndex mark).find? k).map Collection.primary).getD defaultPrimary
      = (((o.overviewIndex mark).find? k).map Collection.primary).getD defaultPrimary := by
    intro k
    by_cases hk : ∃ c ∈ o.collections, c.key = k
    · obtain ⟨c, hc, rfl⟩ := hk
      rw [find?_overviewIndex hc]
      cases h : (o.snapshotIndex mark).find? c.key with
      | some c' => exact primary_of_find?_snapshotIndex ho hc h
      | none =>
        -- the host owns all its fields, and it is known by the default
        have hhost : c.isHost mark = true := by
          rw [Table.find?_eq_none_iff, mem_keys_snapshotIndex] at h
          by_contra hproject
          exact h ⟨c, hc, rfl, fun hhost => absurd hhost hproject⟩
        show defaultPrimary = .text c.primary
        rw [(ho c hc hhost).1]
        rfl
    · have hsnapshot : (o.snapshotIndex mark).find? k = none := by
        rw [Table.find?_eq_none_iff, mem_keys_snapshotIndex]
        rintro ⟨c, hc, hkey, -⟩
        exact hk ⟨c, hc, hkey⟩
      have hoverview : (o.overviewIndex mark).find? k = none := by
        rw [Table.find?_eq_none_iff, Table.keys, entries_overviewIndex, List.map_map,
          List.mem_map]
        rintro ⟨c, hc, hkey⟩
        exact hk ⟨c, hc, hkey⟩
      rw [hsnapshot, hoverview]
  funext t
  unfold Index.primaryOfText Index.ofText?
  cases Name.ofText? t with
  | none => rfl
  | some name => exact hfind name.key

/-! ## The run of a snapshot -/

/-- **The run of a snapshot** comes to the same. -/
theorem run_snapshot {noted : Bool} {s : Settings} (ho : o.Fits s.systemPrefix) :
    (Run.ofSchema noted s (o.snapshot s.systemPrefix) .null).text
        = (Document.textOfIndex s (o.linkedIndex s.systemPrefix)).outcome.mapError .document
      ∧ (Run.ofSchema noted s (o.snapshot s.systemPrefix) .null).warnings
        = o.relations.flatMap RelationOutline.complaints := by
  obtain ⟨htext, hwarnings⟩ := ofSchema_of_relations noted
    ((index_null s _).trans (ofSchema_snapshot ho)) (ofSchema_relationsValue (o := o) rfl)
  refine ⟨htext.trans (congrArg _ ?_), hwarnings⟩
  obtain ⟨vs, hvs⟩ := View.exists_ofIndex s (o.textual_linkedIndex s.systemPrefix)
  refine Document.outcome_of_visible_perm ?_ (o.keyed_linkedIndex _).nodup_names hvs
  unfold linkedIndex
  rw [RelationOutline.visible_foldl_linkOn, RelationOutline.visible_foldl_linkOn,
    primaryOfText_snapshotIndex ho]
  exact RelationOutline.foldl_linkOn_perm (visible_perm ho) _ _

end Outline

/-- **Both shapes of a schema have one document.** What an outline says comes
to the same text and to the same warnings as an overview and as a snapshot,
and it comes to a text wherever the layout is possible. -/
theorem overview_and_snapshot_agree (noted : Bool) {o : Outline} {options : Options}
    {s : Settings} (hs : options.settings = .ok s) (ho : o.Fits s.systemPrefix) :
    (buildDocument noted (o.snapshot s.systemPrefix) options .null).text
        = (buildDocument noted o.overview options .null).text
      ∧ (buildDocument noted (o.snapshot s.systemPrefix) options .null).warnings
        = (buildDocument noted o.overview options .null).warnings
      ∧ ∀ l, s.layout = .ok l →
        ∃ text, (buildDocument noted o.overview options .null).text = .ok text := by
  refine ⟨?_, ?_, fun l hl => o.exists_text noted hs hl⟩
  · unfold buildDocument
    rw [hs]
    exact (Outline.run_snapshot ho).1.trans (o.run_overview noted s).1.symm
  · unfold buildDocument
    rw [hs]
    exact (Outline.run_snapshot ho).2.trans (o.run_overview noted s).2.symm

/-- The blog has one document in both shapes. -/
theorem blog_shapes_agree :
    Options.absent.settings = .ok {} ∧ Outline.blog.Fits "directus_"
      ∧ ∃ text, (buildDocument false Outline.blog.overview .absent .null).text = .ok text
        ∧ (buildDocument false (Outline.blog.snapshot "directus_") .absent .null).text
          = .ok text := by
  have hs : Options.absent.settings = .ok {} := rfl
  obtain ⟨hsame, -, htext⟩ := overview_and_snapshot_agree false hs Outline.fits_blog
  obtain ⟨text, htext⟩ := htext _ rfl
  exact ⟨hs, Outline.fits_blog, text, htext, hsame.trans htext⟩

end CollectionTypes
