import CollectionTypes.Proofs.Document.Visible
import CollectionTypes.Proofs.Generation.Outlined
import CollectionTypes.Proofs.Schema.Reordered

/-!
# The order of a schema does not matter

The entries of the collections, the relations and the records about fields may
come in any order, and so may the fields of different collections: if no two
entries speak of one thing, the document is the same, or there is none in
either order (`order_does_not_matter`). The order decides where something
stands in the tables on the way, and nothing else; and from the tables the
document is made in the order of the names.
-/

namespace CollectionTypes

open Outcome

/-- **No two entries speak of one thing**: the collections have distinct texts
for names, no two records are about one field, and no two relations address one
field of the index. -/
structure Unambiguous (s : Settings) (schema records : Value) : Prop where
  names : NamesDistinct schema
  keys : ∀ vs, Flags.recordsOf records = .ok vs → (Flags.keysOf vs).Nodup
  relations : ∀ ix rs, (Run.index s schema records).outcome = .ok ix →
    Relation.ofSchema schema = .ok rs → ix.AddressedOnce rs

variable {s : Settings} {schema schema' records records' : Value}

/-- The index is the same, up to the order of the collections. -/
theorem Run.index_reordered (hschema : schema.SchemaReordered schema')
    (hrecords : records.Reordered records') (hnames : NamesDistinct schema)
    (hkeys : ∀ vs, Flags.recordsOf records = .ok vs → (Flags.keysOf vs).Nodup) {ix : Index}
    (h : (index s schema records).outcome = .ok ix) :
    ∃ ix', (index s schema' records').outcome = .ok ix' ∧ ∀ k, ix.find? k = ix'.find? k := by
  obtain ⟨flags, hflags, h⟩ := index_ok_iff.mp h
  obtain ⟨detached, listed, hstages⟩ := Index.ofSchema_ok_iff.mp h
  obtain ⟨flags', hflags', halike⟩ := Flags.ofRecords_reordered hrecords hkeys hflags
  obtain ⟨detached', listed', ix', hstages', hsame⟩ := hstages.reordered hschema hnames halike
  refine ⟨ix', index_ok_iff.mpr ⟨flags', hflags', ?_⟩, hsame⟩
  exact Index.ofSchema_ok_iff.mpr ⟨detached', listed', hstages'⟩

namespace Unambiguous

variable (h : Unambiguous s schema records)

include h

theorem keys_reordered (hrecords : records.Reordered records') :
    ∀ vs, Flags.recordsOf records' = .ok vs → (Flags.keysOf vs).Nodup := by
  intro vs' hvs'
  obtain ⟨vs, hvs, hperm⟩ := Flags.recordsOf_reordered hrecords.symm hvs'
  exact ((hperm.filterMap _).map _).nodup_iff.mpr (h.keys vs hvs)

/-- Nothing speaks of one thing in another order either. -/
theorem reordered (hschema : schema.SchemaReordered schema')
    (hrecords : records.Reordered records') : Unambiguous s schema' records' where
  names := h.names.reordered hschema
  keys := h.keys_reordered hrecords
  relations := by
    intro ix' rs' hix' hrs'
    obtain ⟨ix, hix, hsame⟩ := Run.index_reordered hschema.symm hrecords.symm
      (h.names.reordered hschema) (h.keys_reordered hrecords) hix'
    obtain ⟨rs, hrs, hperm⟩ := hschema.symm.relationsOf hrs'
    have hframe := Index.frame_eq_of_find? fun k => (hsame k).symm
    exact (h.relations ix rs hix hrs).reordered hframe hperm.symm

/-- **What comes out in one order comes out in another.** -/
theorem text_reordered (hschema : schema.SchemaReordered schema')
    (hrecords : records.Reordered records') {noted : Bool} {text : String}
    (htext : (Run.ofSchema noted s schema records).text = .ok text) :
    (Run.ofSchema noted s schema' records').text = .ok text := by
  obtain ⟨m, rfl⟩ := Run.text_ok_iff.mp htext
  obtain ⟨ix', hix', hsame⟩ := Run.index_reordered hschema hrecords h.names h.keys m.indexed_ok
  obtain ⟨rs', hrs', hperm⟩ := hschema.relationsOf m.relations_ok
  obtain ⟨hfault', hlinked⟩ := Linking.resolve_reordered hsame hperm
    (h.relations _ _ m.indexed_ok m.relations_ok) m.linked_ok
  have hvalues : m.index.values.Perm (Linking.resolve ix' rs').index.values :=
    (Table.perm_entries_iff.mpr hlinked).map Prod.snd
  rw [(Run.ofSchema_of_linked noted hix' hrs' hfault').1,
    Document.outcome_perm hvalues m.keyed.nodup_names m.views_ok]
  exact (Run.ofSchema_of_linked noted m.indexed_ok m.relations_ok m.linked_ok).1.symm.trans htext

end Unambiguous

/-- **The order of a schema does not matter.** If no two entries speak of one
thing, a document comes out exactly if the same document comes out with the
collections, the relations, the records about fields and the detached fields in
another order, where the detached fields of each collection keep theirs. -/
theorem order_does_not_matter {noted : Bool} {options : Options}
    (hs : options.settings = .ok s) (hschema : schema.SchemaReordered schema')
    (hrecords : records.Reordered records') (h : Unambiguous s schema records) (text : String) :
    (buildDocument noted schema options records).text = .ok text
      ↔ (buildDocument noted schema' options records').text = .ok text := by
  unfold buildDocument
  rw [hs]
  constructor
  · exact h.text_reordered hschema hrecords
  · exact (h.reordered hschema hrecords).text_reordered hschema.symm hrecords.symm

/-! ## A blog in another order -/

namespace RelationOutline

/-- The places that a relation between texts names. -/
def places (r : RelationOutline) : List FieldPlace :=
  match r.sides with
  | none => []
  | some s => s.onePlace.toList ++ s.manyPlace.toList

theorem mem_places_of_addresses {ix : Index} {r : RelationOutline} {place : FieldPlace}
    (h : r.relation.Addresses ix place) : place ∈ r.places := by
  obtain ⟨s, hs, hplace⟩ := h
  obtain ⟨s, hsides, rfl⟩ := Option.map_eq_some_iff.mp hs
  unfold places
  rw [hsides, List.mem_append, Option.mem_toList, Option.mem_toList]
  refine hplace.imp (fun hone => ?_) (fun hmany => ?_)
  · exact (Option.filter_eq_some_iff.mp
      (Except.ok.inj ((ix.locate_ofText? s.oneCollection s.oneField).symm.trans hone))).1
  · exact (Option.filter_eq_some_iff.mp
      (Except.ok.inj ((ix.locate_ofText? s.manyCollection s.manyField).symm.trans hmany))).1

/-- Relations that name different places address no field twice. -/
theorem addressedOnce (ix : Index) {rs : List RelationOutline}
    (h : rs.Pairwise fun r r' => ∀ place ∈ r.places, place ∉ r'.places) :
    ix.AddressedOnce (rs.map relation) :=
  List.pairwise_map.mpr (h.imp fun hapart place hboth =>
    hapart place (mem_places_of_addresses hboth.1) (mem_places_of_addresses hboth.2))

end RelationOutline

namespace Outline

/-- The blog with its articles last, and with its relations turned round. -/
def blogTurned : Outline where
  collections := blog.collections.tail ++ blog.collections.take 1
  relations := blog.relations.reverse

/-- Two records about the fields of a blog. -/
def blogRecords : List Value :=
  [.object [("collection", .text "articles"), ("field", .text "author"), ("meta", .object [])],
    .object [("collection", .text "comments"), ("field", .text "article"), ("meta", .object [])]]

theorem blog_reordered :
    (blog.snapshot "directus_").SchemaReordered (blogTurned.snapshot "directus_") where
  collections := by
    have hturned : (blog.collections.take 1 ++ blog.collections.tail).Perm
        blogTurned.collections := List.perm_append_comm
    exact .list ((hturned.filter _).map _)
  relations := .list ((List.reverse_perm _).symm.map _)
  fields :=
    show ((rawFields (blog.snapshot "directus_")).take 2
        ++ (rawFields (blog.snapshot "directus_")).drop 2).Perm
      ((rawFields (blog.snapshot "directus_")).drop 2
        ++ (rawFields (blog.snapshot "directus_")).take 2) from List.perm_append_comm
  fieldsOf := by
    intro k
    have harticles : ∀ r ∈ (rawFields (blog.snapshot "directus_")).take 2,
        (given r.owned?).map (fun p => p.1.key) = some (.text "articles") := by
      decide +kernel
    have hothers : ∀ r ∈ (rawFields (blog.snapshot "directus_")).drop 2,
        (given r.owned?).map (fun p => p.1.key) ≠ some (.text "articles") := by
      decide +kernel
    show ((rawFields (blog.snapshot "directus_")).take 2
        ++ (rawFields (blog.snapshot "directus_")).drop 2).filter (RawField.ownedBy k)
      = ((rawFields (blog.snapshot "directus_")).drop 2
        ++ (rawFields (blog.snapshot "directus_")).take 2).filter (RawField.ownedBy k)
    rw [List.filter_append, List.filter_append]
    -- one of the two parts has no field of the collection
    by_cases hk : k = .text "articles"
    · have hnone : ((rawFields (blog.snapshot "directus_")).drop 2).filter (RawField.ownedBy k)
          = [] := by
        refine List.filter_eq_nil_iff.mpr fun r hr howned => hothers r hr ?_
        rw [← hk]
        exact of_decide_eq_true howned
      rw [hnone, List.append_nil, List.nil_append]
    · have hnone : ((rawFields (blog.snapshot "directus_")).take 2).filter (RawField.ownedBy k)
          = [] := by
        refine List.filter_eq_nil_iff.mpr fun r hr howned => hk ?_
        have hsame := (harticles r hr).symm.trans (of_decide_eq_true howned)
        exact (Option.some.inj hsame).symm
      rw [hnone, List.append_nil, List.nil_append]

theorem ofSchema_blog :
    Relation.ofSchema (blog.snapshot "directus_")
      = .ok (blog.relations.map RelationOutline.relation) :=
  ofSchema_relationsValue rfl

theorem blog_unambiguous : Unambiguous {} (blog.snapshot "directus_") (.list blogRecords) where
  names := by
    have hnames : listedNames (blog.snapshot "directus_")
        = ["articles", "comments", "imprint"].map Value.text := rfl
    constructor
    · rw [hnames]
      exact fun v hv => (List.mem_map.mp hv).imp fun _ h => h.2.symm
    · rw [hnames]
      exact List.Nodup.map (fun _ _ h => Value.text.inj h) (by decide)
  keys := by
    intro vs hvs
    have hkeys : Flags.keysOf blogRecords
        = [(.text "articles", .text "author"), (.text "comments", .text "article")] := rfl
    rw [← Except.ok.inj hvs]
    exact hkeys ▸ (by decide)
  relations := by
    intro ix rs _ hrs
    rw [← Except.ok.inj (ofSchema_blog.symm.trans hrs)]
    exact RelationOutline.addressedOnce ix (by decide +kernel)

/-- The snapshot of a blog has a document, also with records. -/
theorem exists_text_blog :
    ∃ text, (buildDocument false (blog.snapshot "directus_") .absent (.list blogRecords)).text
      = .ok text := by
  have hchecked : (Run.index {} (blog.snapshot "directus_") (.list blogRecords)).outcome.toOption.any
      (fun ix => ix.values.all fun c => c.name.text?.isSome && c.fields.values.all fun f =>
        f.name.text?.isSome && f.relation.isNone) = true := by
    decide +kernel
  obtain ⟨ix, hix, htexts⟩ := (Option.any_eq_true _ _).mp hchecked
  have hindex : (Run.index {} (blog.snapshot "directus_") (.list blogRecords)).outcome = .ok ix :=
    toOption_eq_some_iff.mp hix
  have htextual : ix.Textual := by
    intro k c hc
    have hc' := List.all_eq_true.mp htexts c (Table.mem_values_iff.mpr ⟨k, hc⟩)
    obtain ⟨hname, hfields⟩ := Bool.and_eq_true_iff.mp hc'
    refine ⟨hname, fun k' f hf => ?_⟩
    have hf' := List.all_eq_true.mp hfields f (Table.mem_values_iff.mpr ⟨k', hf⟩)
    obtain ⟨hname', hnone⟩ := Bool.and_eq_true_iff.mp hf'
    refine ⟨hname', fun l hl => ?_⟩
    rw [hl] at hnone
    cases hnone
  obtain ⟨hfault, hlinked, -⟩ := Linking.resolve_relations ix blog.relations
  obtain ⟨text, htext⟩ := Document.exists_text (s := {})
    (htextual.foldl_linkOn ix.primaryOfText blog.relations) rfl
  refine ⟨text, (Run.ofSchema_of_linked false hindex ofSchema_blog hfault).1.trans ?_⟩
  rw [hlinked]
  exact mapError_ok_iff.mpr htext

end Outline

/-- The blog has one document in either order. -/
theorem blog_order_does_not_matter :
    Options.absent.settings = .ok {}
      ∧ (Outline.blog.snapshot "directus_").SchemaReordered
          (Outline.blogTurned.snapshot "directus_")
      ∧ (Value.list Outline.blogRecords).Reordered (.list Outline.blogRecords.reverse)
      ∧ Unambiguous {} (Outline.blog.snapshot "directus_") (.list Outline.blogRecords)
      ∧ ∃ text, (buildDocument false (Outline.blog.snapshot "directus_") .absent
            (.list Outline.blogRecords)).text = .ok text
          ∧ (buildDocument false (Outline.blogTurned.snapshot "directus_") .absent
              (.list Outline.blogRecords.reverse)).text = .ok text := by
  have hs : Options.absent.settings = .ok {} := rfl
  have hrecords : (Value.list Outline.blogRecords).Reordered (.list Outline.blogRecords.reverse) :=
    .list (List.reverse_perm _).symm
  obtain ⟨text, htext⟩ := Outline.exists_text_blog
  refine ⟨hs, Outline.blog_reordered, hrecords, Outline.blog_unambiguous, text, htext, ?_⟩
  exact (order_does_not_matter hs Outline.blog_reordered hrecords Outline.blog_unambiguous text).mp
    htext

end CollectionTypes
