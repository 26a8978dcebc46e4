import CollectionTypes.Document.OfViews
import CollectionTypes.Proofs.Document.Shown

/-!
# A document sees only what is shown

`Index.visible` is an index without what is not shown: without the
collections that are left out, without the fields that are, and without what
no document says about a collection. A document is made of no more than that
(`Document.outcome_visible`), and the order of the collections does not
matter either (`Document.outcome_perm`).

Linking treats the visible part for itself: a link on a field that is not
shown does not show, and any other link shows in its place
(`Index.visible_attach`).
-/

namespace CollectionTypes

open Outcome

/-! ## The visible part -/

/-- **What is visible of a collection**, if it is shown. -/
def Collection.visible (c : Collection) : Collection where
  name := c.name
  primary := c.primary
  singleton := c.singleton
  isSystem := c.isSystem
  fields := if c.isSystem then c.fields.only fun f => !f.system else c.fields

/-- **What is visible of an index.** -/
def Index.visible (ix : Index) : Index :=
  (ix.only Collection.isShown).mapValues Collection.visible

namespace Collection

theorem shownFields_visible (c : Collection) : c.visible.shownFields = c.shownFields := by
  unfold shownFields customFields visible
  dsimp only
  split
  · rw [Table.values_only, List.filter_filter]
    simp only [Bool.and_self]
  · rfl

theorem isShown_visible (c : Collection) : c.visible.isShown = c.isShown := by
  unfold isShown hasCustomFields visible
  dsimp only
  cases c.isSystem with
  | false => rfl
  | true =>
    rw [if_pos rfl, Table.values_only, List.any_filter]
    simp only [Bool.and_self]

/-- The collection with a link on a field. -/
def withLink (c : Collection) (key : Key) (l : Link) : Collection :=
  c.withFields fun t => t.modify key fun f => { f with relation := some l }

theorem isShown_withLink (c : Collection) (key : Key) (l : Link) :
    (c.withLink key l).isShown = c.isShown := by
  have h : (c.withLink key l).hasCustomFields = c.hasCustomFields :=
    Table.any_values_modify fun _ => rfl
  show (!c.isSystem || (c.withLink key l).hasCustomFields) = c.isShown
  rw [h]
  rfl

theorem visible_withLink (c : Collection) (key : Key) (l : Link) :
    (c.withLink key l).visible = c.visible.withLink key l := by
  have h : ((c.fields.modify key fun f => { f with relation := some l }).only fun f => !f.system)
      = (c.fields.only fun f => !f.system).modify key fun f => { f with relation := some l } :=
    Table.only_modify fun _ => rfl
  unfold withLink withFields visible
  dsimp only
  rw [h]
  split <;> rfl

end Collection

namespace Index

theorem attach_eq_modify (ix : Index) (place : FieldPlace) (l : Link) :
    ix.attach place l = ix.modify place.1 fun c => c.withLink place.2 l := rfl

/-- **A link shows in its place**, if its place is shown. -/
theorem visible_attach (ix : Index) (place : FieldPlace) (l : Link) :
    (ix.attach place l).visible = ix.visible.attach place l := by
  unfold visible
  rw [attach_eq_modify, attach_eq_modify,
    Table.only_modify fun c => c.isShown_withLink place.2 l]
  exact Table.mapValues_modify fun c => c.visible_withLink place.2 l

theorem values_visible (ix : Index) :
    ix.visible.values = (ix.values.filter Collection.isShown).map Collection.visible := by
  unfold visible
  rw [Table.values_mapValues, Table.values_only]

/-- All that is visible is shown. -/
theorem filter_values_visible (ix : Index) :
    ix.visible.values.filter Collection.isShown = ix.visible.values := by
  rw [values_visible, List.filter_eq_self, List.forall_mem_map]
  intro c hc
  rw [c.isShown_visible]
  exact (List.mem_filter.mp hc).2

end Index

/-! ## Views of the visible part -/

namespace View

variable {s : Settings}

/-- The view with what is visible of its collection. -/
def visible (v : View) : View :=
  { v with collection := v.collection.visible }

theorem ofShown_visible (s : Settings) (c : Collection) :
    ofShown s c.visible = (ofShown s c).map visible := by
  have hname : c.visible.name = c.name := rfl
  unfold ofShown
  rw [c.shownFields_visible, hname]
  cases c.name with
  | text name =>
    generalize memberFields c.shownFields = out
    cases out <;> rfl
  | flag b => rfl
  | int n => rfl
  | real x => rfl

theorem outcome_ofIndex_visible (s : Settings) (ix : Index) :
    (ofIndex s ix.visible).outcome = (ofIndex s ix).outcome.map (List.map visible) := by
  rw [outcome_ofIndex, outcome_ofIndex, ix.filter_values_visible, ix.values_visible]
  induction ix.values.filter Collection.isShown with
  | nil => rfl
  | cons c cs ih =>
    rw [List.map_cons, List.mapM_cons, List.mapM_cons, ofShown_visible, ih]
    cases ofShown s c with
    | error m => rfl
    | ok v => cases cs.mapM (ofShown s) <;> rfl

theorem arranged_map_visible (vs : List View) :
    arranged (vs.map visible) = (arranged vs).map visible :=
  (List.map_mergeSort (f := visible) fun _ _ _ _ => rfl).symm

end View

namespace Document

open View

theorem blocksFrom_map_visible (s : Settings) (t : Imports) (vs : List View) :
    blocksFrom s t (vs.map visible) = blocksFrom s t vs := by
  induction vs generalizing t with
  | nil => rfl
  | cons v vs ih =>
    rw [List.map_cons, blocksFrom, blocksFrom]
    simp only [ih]
    rfl

/-- The document of views is that of what is visible of them. -/
theorem ofViews_map_visible (s : Settings) (vs : List View) :
    ofViews s (vs.map visible) = ofViews s vs := by
  unfold ofViews rollupOf
  rw [blocksFrom_map_visible, List.map_map]
  rfl

/-! ## Texts of the visible part -/

/-- The text of views, if they have a document and the layout is possible. -/
def textOfViews (s : Settings) (vs : List View) : Except DocumentError String := do
  let (d, _) ← ofViews s (arranged vs)
  let l ← s.layout.mapError DocumentError.misuse
  return d.text l

theorem outcome_textOfIndex (s : Settings) (ix : Index) :
    (textOfIndex s ix).outcome
      = (View.ofIndex s ix).outcome.mapError .misuse >>= textOfViews s := by
  unfold textOfIndex ofIndex textOfViews
  simp only [Traced.outcome_bind, bind_assoc]
  rfl

/-- **A document is made of what is visible of an index.** -/
theorem outcome_visible (s : Settings) (ix : Index) :
    (textOfIndex s ix.visible).outcome = (textOfIndex s ix).outcome := by
  rw [outcome_textOfIndex, outcome_textOfIndex, outcome_ofIndex_visible]
  cases (View.ofIndex s ix).outcome with
  | error m => rfl
  | ok vs =>
    show textOfViews s (vs.map visible) = textOfViews s vs
    unfold textOfViews
    rw [arranged_map_visible, ofViews_map_visible]

/-- **The order of the collections does not matter** to a document. -/
theorem outcome_perm {s : Settings} {ix ix' : Index} (h : ix.values.Perm ix'.values)
    (hd : (ix.values.map Collection.name).Nodup) {vs : List View}
    (hvs : (View.ofIndex s ix).outcome = .ok vs) :
    (textOfIndex s ix').outcome = (textOfIndex s ix).outcome := by
  have hshown := h.filter Collection.isShown
  have hforall := mapM_ok_iff.mp (outcome_ofIndex (s := s) ix ▸ hvs)
  obtain ⟨vs', hforall', hperm⟩ := List.perm_comp_forall₂ hshown.symm hforall
  have hvs' : (View.ofIndex s ix').outcome = .ok vs' := by
    rw [outcome_ofIndex]
    exact mapM_ok_iff.mpr hforall'
  -- names are distinct, so there is one order for the views
  have harranged : arranged vs' = arranged vs :=
    (sortedBy_eq_of_perm hperm.symm (nodup_names hd hvs)).symm
  rw [outcome_textOfIndex, outcome_textOfIndex, hvs, hvs']
  show textOfViews s vs' = textOfViews s vs
  unfold textOfViews
  rw [harranged]

theorem nodup_names_visible {ix : Index} (hd : (ix.values.map Collection.name).Nodup) :
    (ix.visible.values.map Collection.name).Nodup := by
  rw [ix.values_visible, List.map_map]
  exact hd.sublist (List.filter_sublist.map Collection.name)

/-- **Indexes of which the same is visible have the same document**, whatever
the order of the collections. -/
theorem outcome_of_visible_perm {s : Settings} {ix ix' : Index}
    (h : ix.visible.entries.Perm ix'.visible.entries)
    (hd : (ix.values.map Collection.name).Nodup) {vs : List View}
    (hvs : (View.ofIndex s ix).outcome = .ok vs) :
    (textOfIndex s ix').outcome = (textOfIndex s ix).outcome := by
  have hvisible : (View.ofIndex s ix.visible).outcome = .ok (vs.map View.visible) := by
    rw [outcome_ofIndex_visible, hvs]
    rfl
  rw [← outcome_visible s ix, ← outcome_visible s ix']
  exact outcome_perm (h.map Prod.snd) (nodup_names_visible hd) hvisible

end Document

end CollectionTypes
