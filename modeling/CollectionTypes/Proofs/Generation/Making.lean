import CollectionTypes.Generation
import CollectionTypes.Proofs.Document.Declared
import CollectionTypes.Proofs.Document.Shown

/-!
# How a document comes about

A run that ends well went through all stages: the schema was indexed, its
relations were linked, the collections were viewed, the members of every
view got their types, every view was declared, and the layout was possible.
A `Making` holds what each stage gave, with the equation that says so, and
`Making.document` is the document put together from it.

`buildDocument_ok_iff` is the one place where a run is taken apart: a text
comes out exactly if there is a making, and it is the text of the making's
document in the making's layout. Whatever is said about the documents that
come out is said about makings.
-/

namespace CollectionTypes

open Outcome

/-- **How a document came about**: what each stage of the run gave. -/
structure Making (s : Settings) (schema records : Value) where
  /-- The index before linking. -/
  indexed : Index
  relations : List Relation
  /-- The views in the order of the index. -/
  views : List View
  /-- The views in the order of the document, with the types of their
  members. -/
  typed : List View.Typed
  blocks : List Block
  layout : Layout
  indexed_ok : (Run.index s schema records).outcome = .ok indexed
  relations_ok : Relation.ofSchema schema = .ok relations
  linked_ok : (Linking.resolve indexed relations).fault = none
  views_ok : (View.ofIndex s (Linking.resolve indexed relations).index).outcome = .ok views
  typed_ok : (View.arranged views).mapM (View.typed s) = .ok typed
  blocks_ok : typed.mapM (View.declared s) = .ok blocks
  layout_ok : s.layout = .ok layout

namespace Making

variable {s : Settings} {schema records : Value}

/-- The index with its links. -/
def index (m : Making s schema records) : Index :=
  (Linking.resolve m.indexed m.relations).index

/-- What the document imports. -/
def imports (m : Making s schema records) : Imports :=
  View.importsFrom (Imports.ofNames [s.primaryKeyType]) m.typed

/-- **The document.** -/
def document (m : Making s schema records) : Document :=
  View.documentOf s m.typed m.blocks

/-- A run can only go one way. -/
instance : Subsingleton (Making s schema records) where
  allEq m m' := by
    obtain ⟨ix, rs, vs, es, bs, l, hix, hrs, -, hvs, hes, hbs, hl⟩ := m
    obtain ⟨ix', rs', vs', es', bs', l', hix', hrs', -, hvs', hes', hbs', hl'⟩ := m'
    obtain rfl : ix = ix' := Except.ok.inj (hix.symm.trans hix')
    obtain rfl : rs = rs' := Except.ok.inj (hrs.symm.trans hrs')
    obtain rfl : vs = vs' := Except.ok.inj (hvs.symm.trans hvs')
    obtain rfl : es = es' := Except.ok.inj (hes.symm.trans hes')
    obtain rfl : bs = bs' := Except.ok.inj (hbs.symm.trans hbs')
    obtain rfl : l = l' := Except.ok.inj (hl.symm.trans hl')
    rfl

/-! ## Stages one by one -/

/-- The index with its links, and its views. -/
def viewsOf (s : Settings) (schema records : Value) : Except Misuse (Index × List View) := do
  let ix ← (Run.index s schema records).outcome
  let rs ← Relation.ofSchema schema
  let ix := (Linking.resolve ix rs).index
  let views ← (View.ofIndex s ix).outcome
  return (ix, views)

/-- The views of the document, with the types of their members. -/
def typedOf (s : Settings) (schema records : Value) : Except Misuse (List View.Typed) := do
  let (_, views) ← viewsOf s schema records
  (View.arranged views).mapM (View.typed s)

theorem viewsOf_eq (m : Making s schema records) :
    viewsOf s schema records = .ok (m.index, m.views) :=
  bind_ok_iff.mpr ⟨_, m.indexed_ok, bind_ok_iff.mpr ⟨_, m.relations_ok,
    bind_ok_iff.mpr ⟨_, m.views_ok, rfl⟩⟩⟩

theorem typedOf_eq (m : Making s schema records) : typedOf s schema records = .ok m.typed :=
  bind_ok_iff.mpr ⟨_, m.viewsOf_eq, m.typed_ok⟩

/-! ## The views of a document -/

variable (m : Making s schema records)

/-- Everything stands under its own name when the views are made. -/
theorem keyed : m.index.Keyed (.text s.systemPrefix) :=
  (Run.keyed_index m.indexed_ok).resolve m.relations

/-- **The views are those of the collections that are shown.** -/
theorem map_collection_views :
    m.views.map View.collection = m.index.values.filter Collection.isShown :=
  (View.ofIndex_ok_iff.mp m.views_ok).1

theorem shows_of_mem {v : View} (hv : v ∈ m.views) : v.Shows s v.collection :=
  (View.ofIndex_ok_iff.mp m.views_ok).2 v hv

/-- The collection of a view is one of the index, under its own name. -/
theorem keyed_of_mem {v : View} (hv : v ∈ m.views) :
    ∃ key, v.collection.Keyed (.text s.systemPrefix) key := by
  have hc : v.collection ∈ m.index.values.filter Collection.isShown := by
    rw [← m.map_collection_views]
    exact List.mem_map_of_mem hv
  obtain ⟨key, hkey⟩ := Table.mem_values_iff.mp (List.mem_filter.mp hc).1
  exact ⟨key, m.keyed key _ hkey⟩

/-- The typed views are the views, in the order of their names. -/
theorem map_fst_typed : m.typed.map Prod.fst = sortedBy View.name m.views :=
  (View.allTyped_ok_iff.mp m.typed_ok).1

theorem map_fst_typed_perm : (m.typed.map Prod.fst).Perm m.views := by
  rw [m.map_fst_typed]
  exact List.mergeSort_perm _ _

theorem mem_views {e : View.Typed} (he : e ∈ m.typed) : e.1 ∈ m.views :=
  m.map_fst_typed_perm.mem_iff.mp (List.mem_map_of_mem he)

/-- **The typed views are those of the views**, which come in some other
order. -/
theorem exists_perm_typed :
    ∃ es, m.views.mapM (View.typed s) = .ok es ∧ m.typed.Perm es := by
  have hperm : m.views.Perm (View.arranged m.views) := (List.mergeSort_perm _ _).symm
  obtain ⟨es, hes, hperm'⟩ := List.perm_comp_forall₂ hperm (mapM_ok_iff.mp m.typed_ok)
  exact ⟨es, mapM_ok_iff.mpr hes, hperm'.symm⟩

theorem typed_of_mem {e : View.Typed} (he : e ∈ m.typed) : View.typed s e.1 = .ok e :=
  (View.allTyped_ok_iff.mp m.typed_ok).2 e he

/-- No two views have one name. -/
theorem nodup_names : (m.views.map View.name).Nodup :=
  View.nodup_names m.keyed.nodup_names m.views_ok

end Making

/-! ## A run taken apart -/

section Run

variable {noted : Bool} {s : Settings} {schema records : Value}

/-- **The text of an index comes out** exactly if its collections can be
viewed, typed, declared and laid out. -/
theorem Document.textOfIndex_ok_iff {ix : Index} {text : String} :
    (textOfIndex s ix).outcome = .ok text
      ↔ ∃ vs es bs l, (View.ofIndex s ix).outcome = .ok vs
          ∧ (View.arranged vs).mapM (View.typed s) = .ok es
          ∧ es.mapM (View.declared s) = .ok bs ∧ s.layout = .ok l
          ∧ text = (View.documentOf s es bs).text l := by
  unfold textOfIndex ofIndex
  simp only [Traced.outcome_bind]
  constructor
  · intro h
    obtain ⟨⟨d, l⟩, h, htext⟩ := bind_ok_iff.mp h
    obtain ⟨vs, hvs, h⟩ := bind_ok_iff.mp h
    obtain ⟨⟨d', n⟩, hd, h⟩ := bind_ok_iff.mp h
    obtain ⟨l', hl, h⟩ := bind_ok_iff.mp h
    obtain ⟨es, bs, hes, hbs, rfl, -⟩ := ofViews_ok_iff.mp hd
    cases h
    exact ⟨vs, es, bs, l, mapError_ok_iff.mp hvs, hes, hbs, mapError_ok_iff.mp hl,
      (Except.ok.inj htext).symm⟩
  · rintro ⟨vs, es, bs, l, hvs, hes, hbs, hl, rfl⟩
    have hd := ofViews_ok_iff.mpr ⟨es, bs, hes, hbs, rfl, rfl⟩
    refine bind_ok_iff.mpr ⟨(View.documentOf s es bs, l), ?_, rfl⟩
    refine bind_ok_iff.mpr ⟨vs, mapError_ok_iff.mpr hvs, bind_ok_iff.mpr ⟨_, hd, ?_⟩⟩
    exact bind_ok_iff.mpr ⟨l, mapError_ok_iff.mpr hl, rfl⟩

/-- **A run that is linked goes on to the document** of the index. -/
theorem Run.ofSchema_of_linked (noted : Bool) {ix : Index} {rs : List Relation}
    (hix : (Run.index s schema records).outcome = .ok ix)
    (hrs : Relation.ofSchema schema = .ok rs) (hfault : (Linking.resolve ix rs).fault = none) :
    (Run.ofSchema noted s schema records).text
        = (Document.textOfIndex s (Linking.resolve ix rs).index).outcome.mapError .document
      ∧ (Run.ofSchema noted s schema records).warnings = (Linking.resolve ix rs).warnings := by
  unfold ofSchema ofLinking text
  simp only [hix, hrs, hfault]
  refine ⟨?_, trivial⟩
  show (((Document.textOfIndex s _).outcome.mapError GenerationError.document).map _).map
    Generated.text = _
  cases (Document.textOfIndex s (Linking.resolve ix rs).index).outcome <;> rfl

/-- **What a making gives**: the text, and the facts about the stages. -/
theorem Run.outcome_ofSchema (noted : Bool) (m : Making s schema records) :
    (Run.ofSchema noted s schema records).outcome
      = .ok ⟨m.document.text m.layout, m.index.size, m.relations.length,
          (Linking.resolve m.indexed m.relations).links⟩ := by
  have htext : (Document.textOfIndex s m.index).outcome = .ok (m.document.text m.layout) :=
    Document.textOfIndex_ok_iff.mpr ⟨m.views, m.typed, m.blocks, m.layout, m.views_ok,
      m.typed_ok, m.blocks_ok, m.layout_ok, rfl⟩
  unfold ofSchema ofLinking
  simp only [m.indexed_ok, m.relations_ok, m.linked_ok]
  exact map_ok_iff.mpr ⟨_, mapError_ok_iff.mpr htext, rfl⟩

/-- **A run gives a text** exactly if there is a making of the document. -/
theorem Run.text_ok_iff {text : String} :
    (Run.ofSchema noted s schema records).text = .ok text
      ↔ ∃ m : Making s schema records, text = m.document.text m.layout := by
  constructor
  · intro h
    obtain ⟨g, hg, rfl⟩ := map_ok_iff.mp h
    unfold ofSchema at hg
    dsimp only at hg
    split at hg
    · cases hg
    next ix hix =>
    split at hg
    · cases hg
    next rs hrs =>
    unfold ofLinking at hg
    split at hg
    · cases hg
    next hfault =>
    obtain ⟨text, htext, rfl⟩ := map_ok_iff.mp hg
    obtain ⟨vs, es, bs, l, hvs, hes, hbs, hl, rfl⟩ :=
      Document.textOfIndex_ok_iff.mp (mapError_ok_iff.mp htext)
    exact ⟨⟨ix, rs, vs, es, bs, l, hix, hrs, hfault, hvs, hes, hbs, hl⟩, rfl⟩
  · rintro ⟨m, rfl⟩
    exact map_ok_iff.mpr ⟨_, outcome_ofSchema noted m, rfl⟩

/-- **A document is built** exactly if the options can be made out and there
is a making of the document under them. -/
theorem buildDocument_ok_iff {options : Options} {text : String}
    (hs : options.settings = .ok s) :
    (buildDocument noted schema options records).text = .ok text
      ↔ ∃ m : Making s schema records, text = m.document.text m.layout := by
  unfold buildDocument
  rw [hs]
  exact Run.text_ok_iff

end Run

end CollectionTypes
