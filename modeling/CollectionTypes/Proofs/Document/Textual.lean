import CollectionTypes.Proofs.Document.Declared
import CollectionTypes.Proofs.Document.Reference
import CollectionTypes.Proofs.Document.Visible
import CollectionTypes.Proofs.Schema.TextLinks

/-!
# Indexes named by texts

Where all collections and fields are named by texts, and links go to texts or
nowhere, nothing stands in the way of a document but its layout
(`Document.exists_text`). The relations of an outline put on links of this
kind alone (`Index.Textual.linkOn`).
-/

namespace CollectionTypes

open Outcome

/-- A field named by a text, with a link to a text or nowhere, if any. -/
structure Field.Textual (f : Field) : Prop where
  name : f.name.text?.isSome = true
  link : ∀ l, f.relation = some l → ∃ t, l.related = .ofText? t

/-- **A collection named by a text**, with fields named by texts. -/
structure Collection.Textual (c : Collection) : Prop where
  name : c.name.text?.isSome = true
  fields : c.fields.All fun _ f => f.Textual

/-- **An index in which texts name everything.** -/
def Index.Textual (ix : Index) : Prop :=
  ix.All fun _ c => c.Textual

/-! ## Linking -/

namespace Index.Textual

variable {ix : Index}

theorem attach? (hix : ix.Textual) (place : Option FieldPlace) {l : Link}
    (hl : ∃ t, l.related = .ofText? t) : (ix.attach? place l).Textual := by
  cases place with
  | none => exact hix
  | some p =>
    refine Table.All.modify hix fun c hc => ⟨hc.name, hc.fields.modify fun f hf => ?_⟩
    refine ⟨hf.name, fun l' hl' => ?_⟩
    rw [← Option.some.inj hl']
    exact hl

/-- A relation between texts keeps an index as it is, if texts name
everything in it. -/
theorem linkOn (hix : ix.Textual) (primary : Option String → Value) (r : RelationOutline) :
    (RelationOutline.linkOn primary ix r).Textual := by
  unfold RelationOutline.linkOn
  split
  · exact hix
  · next s _ =>
    have hone := hix.attach? s.onePlace (l := RelationOutline.oneLink primary s) ⟨_, rfl⟩
    dsimp only
    split
    · exact hone
    · exact hone.attach? s.manyPlace ⟨_, rfl⟩

theorem foldl_linkOn (hix : ix.Textual) (primary : Option String → Value)
    (rs : List RelationOutline) : (rs.foldl (RelationOutline.linkOn primary) ix).Textual := by
  induction rs generalizing ix with
  | nil => exact hix
  | cons r rs ih => exact ih (hix.linkOn primary r)

end Index.Textual

/-! ## Views and types -/

/-- Fields named by texts can be put in order. -/
theorem exists_memberFields {fs : List Field} (h : ∀ f ∈ fs, f.name.text?.isSome = true) :
    ∃ ordered, memberFields fs = .ok ordered := by
  have hnames : ∀ f ∈ fs.filter (fun f => f.relation.isSome), f.name.text?.isSome = true :=
    fun f hf => h f (List.mem_filter.mp hf).1
  unfold memberFields
  rw [arrange_eq_sortedBy hnames]
  exact ⟨_, rfl⟩

/-- A collection can be viewed if texts name it and the fields that are shown of it. -/
theorem Collection.exists_ofShown (s : Settings) {c : Collection}
    (hname : c.name.text?.isSome = true)
    (hfields : ∀ f ∈ c.shownFields, f.name.text?.isSome = true) :
    ∃ v, View.ofShown s c = .ok v := by
  obtain ⟨ordered, hordered⟩ := exists_memberFields hfields
  exact ⟨View.showing s c c.name.shownText ordered,
    View.ofShown_ok_iff.mpr ⟨rfl, Name.eq_text_of_isText hname, hordered⟩⟩

namespace Collection.Textual

variable {c : Collection} {s : Settings}

theorem of_mem_shownFields (hc : c.Textual) {f : Field} (hf : f ∈ c.shownFields) :
    f.Textual := by
  obtain ⟨k, hk⟩ := Table.mem_values_iff.mp (c.shownFields_sublist.subset hf)
  exact hc.fields k f hk

/-- It can be viewed. -/
theorem exists_ofShown (hc : c.Textual) (s : Settings) : ∃ v, View.ofShown s c = .ok v :=
  Collection.exists_ofShown s hc.name fun _ hf => (hc.of_mem_shownFields hf).name

end Collection.Textual

theorem Link.exists_memberType (s : Settings) {l : Link} (h : ∃ t, l.related = .ofText? t) :
    ∃ t, l.memberType s = .ok t := by
  obtain ⟨t, ht⟩ := h
  have hreference : l.isResolved = true → ∃ e, l.reference s = .ok e := by
    intro hresolved
    unfold isResolved at hresolved
    cases t with
    | none =>
      rw [ht] at hresolved
      cases hresolved
    | some name =>
      unfold reference
      rw [ht, Value.ofText?, target_text]
      exact ⟨_, rfl⟩
  unfold memberType
  split
  · next hresolved =>
    obtain ⟨e, he⟩ := hreference hresolved
    cases l.direction with
    | one => exact ⟨e, he⟩
    | many => exact ⟨_, map_ok_iff.mpr ⟨e, he, rfl⟩⟩
  · cases l.direction <;> exact ⟨_, rfl⟩

theorem Field.Textual.exists_memberType {f : Field} (hf : f.Textual) (s : Settings)
    (primary : Value) : ∃ t, f.memberType s primary = .ok t := by
  unfold Field.memberType MemberType.ofParts
  split
  · exact ⟨_, rfl⟩
  · cases hl : f.relation with
    | none => exact ⟨_, rfl⟩
    | some l =>
      obtain ⟨t, ht⟩ := Link.exists_memberType s (hf.link l hl)
      exact ⟨_, map_ok_iff.mpr ⟨t, ht, rfl⟩⟩

namespace View

variable {s : Settings}

/-- An index in which texts name everything can be viewed. -/
theorem exists_ofIndex (s : Settings) {ix : Index} (hix : ix.Textual) :
    ∃ vs, (ofIndex s ix).outcome = .ok vs := by
  rw [outcome_ofIndex]
  refine mapM_ok_of_forall fun c hc => ?_
  obtain ⟨k, hk⟩ := Table.mem_values_iff.mp (List.mem_filter.mp hc).1
  exact (hix k c hk).exists_ofShown s

/-- The members of a view of such an index are named by texts. -/
theorem textual_of_mem_fields {ix : Index} (hix : ix.Textual) {vs : List View}
    (hvs : (ofIndex s ix).outcome = .ok vs) {v : View} (hv : v ∈ vs) {f : Field}
    (hf : f ∈ v.fields) : f.Textual := by
  obtain ⟨hcollections, hshows⟩ := ofIndex_ok_iff.mp hvs
  have hc : v.collection ∈ ix.values.filter Collection.isShown := by
    rw [← hcollections]
    exact List.mem_map_of_mem hv
  obtain ⟨k, hk⟩ := Table.mem_values_iff.mp (List.mem_filter.mp hc).1
  exact (hix k _ hk).of_mem_shownFields ((memberFields_perm (hshows v hv).fields).mem_iff.mp hf)

theorem exists_typed (s : Settings) {v : View} (h : ∀ f ∈ v.fields, f.Textual) :
    ∃ e, typed s v = .ok e := by
  have htypes : ∃ types, v.memberTypes s = .ok types := by
    refine mapM_ok_of_forall fun f hf => ?_
    obtain ⟨t, ht⟩ := (h f hf).exists_memberType s v.collection.primary
    exact ⟨(f, t), bind_ok_iff.mpr ⟨t, ht, rfl⟩⟩
  obtain ⟨types, htypes⟩ := htypes
  exact ⟨_, map_ok_iff.mpr ⟨types, htypes, rfl⟩⟩

theorem exists_declared {l : Layout} (hl : s.layout = .ok l) {e : Typed}
    (h : ∀ p ∈ e.2, p.1.Textual) : ∃ b, declared s e = .ok b := by
  have hmembers : ∃ ms, e.2.mapM member = .ok ms := by
    refine mapM_ok_of_forall fun p hp => ?_
    refine ⟨⟨p.1.name.shownText, p.2.expr.text⟩, member_ok_iff.mpr ⟨?_, rfl⟩⟩
    exact Name.eq_text_of_isText (h p hp).name
  obtain ⟨ms, hms⟩ := hmembers
  exact ⟨⟨e.1.typeName, _, ms⟩, declared_ok_iff.mpr ⟨⟨l, hl⟩, rfl, rfl, members_ok_iff.mp hms⟩⟩

end View

/-- **Where texts name everything, there is a document** in every layout that
is possible. -/
theorem Document.exists_text {s : Settings} {ix : Index} (hix : ix.Textual) {l : Layout}
    (hl : s.layout = .ok l) : ∃ text, (textOfIndex s ix).outcome = .ok text := by
  obtain ⟨vs, hvs⟩ := View.exists_ofIndex s hix
  have hfields : ∀ v ∈ View.arranged vs, ∀ f ∈ v.fields, f.Textual := fun v hv f hf =>
    View.textual_of_mem_fields hix hvs (List.mem_mergeSort.mp hv) hf
  obtain ⟨es, hes⟩ := mapM_ok_of_forall fun v hv => View.exists_typed s (hfields v hv)
  obtain ⟨hviews, htyped⟩ := View.allTyped_ok_iff.mp hes
  -- typing a view does not change its fields
  have hmembers : ∀ e ∈ es, ∀ p ∈ e.2, p.1.Textual := by
    intro e he p hp
    have hv : e.1 ∈ View.arranged vs := hviews ▸ List.mem_map_of_mem he
    refine hfields e.1 hv p.1 ?_
    rw [← (View.typed_ok_iff.mp (htyped e he)).2.1]
    exact List.mem_map_of_mem hp
  obtain ⟨bs, hbs⟩ := mapM_ok_of_forall fun e he => View.exists_declared hl (hmembers e he)
  have hdocument := ofViews_ok_iff.mpr ⟨es, bs, hes, hbs, rfl, rfl⟩
  have hlayout : s.layout.mapError DocumentError.misuse = .ok l := mapError_ok_iff.mpr hl
  rw [outcome_textOfIndex]
  exact ⟨_, bind_ok_iff.mpr ⟨vs, mapError_ok_iff.mpr hvs,
    bind_ok_iff.mpr ⟨_, hdocument, bind_ok_iff.mpr ⟨l, hlayout, rfl⟩⟩⟩⟩

end CollectionTypes
