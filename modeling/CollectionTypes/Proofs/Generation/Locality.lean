import CollectionTypes.Proofs.Document.Content
import CollectionTypes.Proofs.Generation.Outlined
import CollectionTypes.Proofs.Schema.Extended

/-!
# What one more collection changes

If a schema is extended by a collection under a new name, its document gains at
most a declaration and a member of the list of collections, both for the new
collection. Everything else that is declared stays as it was, and in its place
(`one_more_collection`). If the new collection is the host's and the project
has no part in it, the document is the same.

Views are told apart by their names: the views without the new collection are
those with it whose name is another (`View.exists_arranged_without`), and what is
declared for a view depends on the view alone.
-/

namespace CollectionTypes

open Outcome

/-! ## Things in order, but for one -/

/-- Things are in order also without some of them. -/
theorem sortedBy_filter {α : Type} {f : α → String} {as : List α} (hd : (as.map f).Nodup)
    (p : α → Bool) : sortedBy f (as.filter p) = (sortedBy f as).filter p := by
  have hperm : (sortedBy f (as.filter p)).Perm ((sortedBy f as).filter p) :=
    (List.mergeSort_perm _ _).trans ((List.mergeSort_perm _ _).symm.filter p)
  refine hperm.eq_of_pairwise (fun a b _ _ hab hba => absurd hba (String.lt_asymm hab))
    (ascending_sortedBy (hd.sublist (List.filter_sublist.map f))) ?_
  exact (ascending_sortedBy hd).filter p

/-- **Lists of which one has at most one thing more**, which passes. -/
def AtMostOneMore {α : Type} (passes : α → Prop) (as as' : List α) : Prop :=
  ∃ before after, as = before ++ after
    ∧ (as' = before ++ after ∨ ∃ a, passes a ∧ as' = before ++ a :: after)

/-- Where texts are distinct, at most one thing has a text. -/
theorem atMostOneMore_filter {α : Type} {f : α → String} {as : List α} (hd : (as.map f).Nodup)
    (t : String) : AtMostOneMore (fun a => f a = t) (as.filter fun a => f a ≠ t) as := by
  by_cases ht : t ∈ as.map f
  · obtain ⟨a, ha, rfl⟩ := List.mem_map.mp ht
    obtain ⟨before, after, rfl⟩ := List.append_of_mem ha
    refine ⟨before, after, ?_, .inr ⟨a, rfl, rfl⟩⟩
    have hmiddle := (List.perm_middle.map f).nodup_iff.mp hd
    rw [List.map_cons, List.nodup_cons] at hmiddle
    have hother : ∀ b ∈ before ++ after, decide (f b ≠ f a) = true := fun b hb =>
      decide_eq_true fun hsame => hmiddle.1 (hsame ▸ List.mem_map_of_mem hb)
    rw [List.filter_append, List.filter_cons_of_neg (by simp), ← List.filter_append,
      List.filter_eq_self.mpr hother]
  · refine ⟨as, [], ?_, .inl (List.append_nil as).symm⟩
    rw [List.append_nil, List.filter_eq_self]
    exact fun a ha => decide_eq_true fun hsame => ht (hsame ▸ List.mem_map_of_mem ha)

namespace AtMostOneMore

variable {α β : Type} {passes : α → Prop} {passes' : β → Prop} {as as' : List α}

/-- What comes of one thing more is at most one thing more. -/
theorem mapM {ε : Type} {f : α → Except ε β} (h : AtMostOneMore passes as as') {bs bs' : List β}
    (hbs : as.mapM f = .ok bs) (hbs' : as'.mapM f = .ok bs')
    (hpasses : ∀ a ∈ as', passes a → ∀ b, f a = .ok b → passes' b) :
    AtMostOneMore passes' bs bs' := by
  obtain ⟨before, after, rfl, rfl | ⟨a, ha, rfl⟩⟩ := h
  · obtain rfl : bs = bs' := Except.ok.inj (hbs.symm.trans hbs')
    exact ⟨bs, [], (List.append_nil bs).symm, .inl (List.append_nil bs).symm⟩
  · rw [List.mapM_append, bind_ok_iff] at hbs hbs'
    obtain ⟨first, hfirst, hbs⟩ := hbs
    obtain ⟨last, hlast, hbs⟩ := bind_ok_iff.mp hbs
    obtain ⟨first', hfirst', hbs'⟩ := hbs'
    obtain ⟨more, hmore, hbs'⟩ := bind_ok_iff.mp hbs'
    rw [List.mapM_cons, bind_ok_iff] at hmore
    obtain ⟨b, hb, hmore⟩ := hmore
    obtain ⟨last', hlast', hmore⟩ := bind_ok_iff.mp hmore
    obtain rfl : first = first' := Except.ok.inj (hfirst.symm.trans hfirst')
    obtain rfl : last = last' := Except.ok.inj (hlast.symm.trans hlast')
    obtain rfl : b :: last = more := Except.ok.inj hmore
    have hmem : a ∈ before ++ a :: after := List.mem_append_right _ List.mem_cons_self
    exact ⟨first, last, (Except.ok.inj hbs).symm,
      .inr ⟨b, hpasses a hmem ha b hb, (Except.ok.inj hbs').symm⟩⟩

theorem map (h : AtMostOneMore passes as as') {f : α → β}
    (hpasses : ∀ a ∈ as', passes a → passes' (f a)) :
    AtMostOneMore passes' (as.map f) (as'.map f) := by
  obtain ⟨before, after, rfl, rfl | ⟨a, ha, rfl⟩⟩ := h
  · exact ⟨before.map f, after.map f, List.map_append, .inl List.map_append⟩
  · have hmem : a ∈ before ++ a :: after := List.mem_append_right _ List.mem_cons_self
    exact ⟨before.map f, after.map f, List.map_append, .inr ⟨f a, hpasses a hmem ha, List.map_append⟩⟩

end AtMostOneMore

/-! ## Views, but for one -/

namespace View

variable {s : Settings} {mark : Value} {ix ix' : Index} {name : String}

/-- **A view of an index** shows the collection that is indexed under its
name. -/
theorem mem_ofIndex_iff (hix : ix.Keyed mark) {vs : List View}
    (hvs : (ofIndex s ix).outcome = .ok vs) {v : View} :
    v ∈ vs ↔ ∃ c, ix.find? (.text v.name) = some c ∧ c.isShown = true ∧ v.Shows s c := by
  obtain ⟨hcollections, hshows⟩ := ofIndex_ok_iff.mp hvs
  constructor
  · intro hv
    have hc : v.collection ∈ ix.values.filter Collection.isShown :=
      hcollections ▸ List.mem_map_of_mem hv
    obtain ⟨hc, hshown⟩ := List.mem_filter.mp hc
    obtain ⟨key, hkey⟩ := Table.mem_values_iff.mp hc
    have hname := (hix key _ hkey).name_key
    rw [(hshows v hv).name] at hname
    obtain rfl := hname
    exact ⟨v.collection, hkey, hshown, hshows v hv⟩
  · rintro ⟨c, hc, hshown, hv⟩
    have hmem : c ∈ vs.map collection :=
      hcollections ▸ List.mem_filter.mpr ⟨Table.mem_values_iff.mpr ⟨_, hc⟩, hshown⟩
    obtain ⟨w, hw, rfl⟩ := List.mem_map.mp hmem
    -- a collection has one view
    have hsame := (ofShown_ok_iff.mpr (hshows w hw)).symm.trans (ofShown_ok_iff.mpr hv)
    exact Except.ok.inj hsame ▸ hw

/-- **Without a collection the views are the others**, in the same order. -/
theorem exists_arranged_without (hix : ix.Keyed mark) (hix' : ix'.Keyed mark)
    (hagree : Index.AgreeBut name ix ix') (hnone : ix.find? (.text name) = none)
    {vs' : List View} (hvs' : (ofIndex s ix').outcome = .ok vs') :
    ∃ vs, (ofIndex s ix).outcome = .ok vs
      ∧ arranged vs = (arranged vs').filter fun v => v.name ≠ name := by
  have hviews : ∀ c ∈ ix.values.filter Collection.isShown, ∃ v, ofShown s c = .ok v := by
    intro c hc
    obtain ⟨hc, hshown⟩ := List.mem_filter.mp hc
    obtain ⟨key, hkey⟩ := Table.mem_values_iff.mp hc
    have hne : key ≠ .text name := by
      rintro rfl
      rw [hnone] at hkey
      cases hkey
    rw [hagree key hne] at hkey
    rw [outcome_ofIndex] at hvs'
    obtain ⟨v, -, hv⟩ := forall₂_exists_right (mapM_ok_iff.mp hvs')
      (List.mem_filter.mpr ⟨Table.mem_values_iff.mpr ⟨key, hkey⟩, hshown⟩)
    exact ⟨v, hv⟩
  obtain ⟨vs, hvs⟩ := mapM_ok_of_forall hviews
  rw [← outcome_ofIndex] at hvs
  have hd := nodup_names hix.nodup_names hvs
  have hd' := nodup_names hix'.nodup_names hvs'
  have hmem : ∀ v, v ∈ vs ↔ v ∈ vs'.filter fun v => v.name ≠ name := by
    intro v
    rw [List.mem_filter, decide_eq_true_iff, mem_ofIndex_iff hix hvs, mem_ofIndex_iff hix' hvs']
    constructor
    · rintro ⟨c, hc, hshows⟩
      have hne : v.name ≠ name := by
        rintro rfl
        rw [hnone] at hc
        cases hc
      exact ⟨⟨c, hagree _ (fun h => hne (Key.text.inj h)) ▸ hc, hshows⟩, hne⟩
    · rintro ⟨⟨c, hc, hshows⟩, hne⟩
      exact ⟨c, (hagree _ fun h => hne (Key.text.inj h)).symm ▸ hc, hshows⟩
  have hperm : vs.Perm (vs'.filter fun v => v.name ≠ name) :=
    (List.perm_ext_iff_of_nodup (.of_map _ hd) ((List.Nodup.of_map _ hd').filter _)).mpr hmem
  refine ⟨vs, hvs, ?_⟩
  show sortedBy View.name vs = (sortedBy View.name vs').filter _
  rw [sortedBy_eq_of_perm hperm hd, sortedBy_filter hd']

end View

/-! ## Documents, but for one collection -/

namespace Making

variable {s : Settings} {schema schema' records : Value} {name : String}

/-- **Without the entry there is a document as well**, of the other views. -/
theorem exists_without (h : schema.WithEntry schema' name)
    (hfresh : FreshName s schema records name) (m' : Making s schema' records) :
    ∃ m : Making s schema records, m.typed = m'.typed.filter (fun e => e.1.name ≠ name)
      ∧ m.layout = m'.layout := by
  obtain ⟨ix, hix, hagree⟩ := Run.index_without h hfresh m'.indexed_ok
  have hrs : Relation.ofSchema schema = .ok m'.relations := h.ofSchema_eq ▸ m'.relations_ok
  obtain ⟨hfault, hlinked⟩ := Linking.resolve_without hagree (hfresh.related _ hrs) m'.linked_ok
  have hkeyed := (Run.keyed_index hix).resolve m'.relations
  have hnone : (Linking.resolve ix m'.relations).index.find? (.text name) = none := by
    rw [Linking.index_resolve hfault, Index.find?_linked, hfresh.indexed ix hix]
    rfl
  obtain ⟨vs, hvs, harranged⟩ :=
    View.exists_arranged_without hkeyed m'.keyed hlinked hnone m'.views_ok
  have htyped : (View.arranged vs).mapM (View.typed s)
      = .ok (m'.typed.filter fun e => e.1.name ≠ name) := by
    refine View.allTyped_ok_iff.mpr ⟨?_, fun e he => m'.typed_of_mem (List.mem_filter.mp he).1⟩
    rw [harranged, ← (View.allTyped_ok_iff.mp m'.typed_ok).1, List.filter_map]
    rfl
  obtain ⟨bs, hbs⟩ := mapM_ok_of_forall fun e (he : e ∈ m'.typed.filter _) =>
    (forall₂_exists_right (mapM_ok_iff.mp m'.blocks_ok) (List.mem_filter.mp he).1).imp
      fun _ hb => hb.2
  exact ⟨⟨ix, m'.relations, vs, _, bs, m'.layout, hix, hrs, hfault, hvs, htyped, hbs,
    m'.layout_ok⟩, rfl, rfl⟩

/-- The views of a document are those of the collections under their names. -/
theorem find?_of_typed (m : Making s schema records) {e : View.Typed} (he : e ∈ m.typed) :
    m.index.find? (.text e.1.name) = some e.1.collection ∧ e.1.collection.isShown = true := by
  obtain ⟨c, hc, hshown, hshows⟩ :=
    (View.mem_ofIndex_iff m.keyed m.views_ok).mp (m.mem_views he)
  rw [hshows.collection]
  exact ⟨hc, hshown⟩

theorem nodup_typed (m : Making s schema records) : (m.typed.map fun e => e.1.name).Nodup := by
  have hperm := m.map_fst_typed_perm.map View.name
  rw [List.map_map] at hperm
  exact hperm.nodup_iff.mpr m.nodup_names

end Making

/-- **A document with at most one collection more**, called that: its
declarations are those of the other document, and perhaps one for the
collection, and so are the members that list the collections. -/
structure Making.OneMore {s : Settings} {schema schema' records : Value}
    (m : Making s schema records) (m' : Making s schema' records) (name : String) : Prop where
  blocks : AtMostOneMore
    (fun b => ∃ c, m'.index.find? (.text name) = some c ∧ b.Describes s c)
    m.document.blocks m'.document.blocks
  members : AtMostOneMore
    (fun member => ∃ c, m'.index.find? (.text name) = some c ∧ member.Lists s c)
    m.document.rollup.members m'.document.rollup.members
  /-- Nothing else of the list of collections is another. -/
  rollup : m'.document.rollup
    = { m.document.rollup with members := m'.document.rollup.members }
  layout : m'.layout = m.layout

namespace Making

variable {s : Settings} {schema schema' records : Value} {name : String}
  {m : Making s schema records} {m' : Making s schema' records}

theorem oneMore_of_typed (htyped : m.typed = m'.typed.filter fun e => e.1.name ≠ name)
    (hlayout : m.layout = m'.layout) : m.OneMore m' name := by
  have hmore : AtMostOneMore (fun e => e.1.name = name) m.typed m'.typed :=
    htyped ▸ atMostOneMore_filter m'.nodup_typed name
  constructor
  case blocks =>
    refine hmore.mapM m.blocks_ok m'.blocks_ok fun e he hname b hb => ?_
    exact ⟨_, hname ▸ (m'.find?_of_typed he).1, m'.describes_of_mem he hb⟩
  case members =>
    have hmembers : ∀ {schema : Value} (m : Making s schema records),
        m.document.rollup.members = m.typed.map fun e => e.1.rollupMember := fun _ => List.map_map
    rw [hmembers, hmembers]
    refine hmore.map fun e he hname => ?_
    exact ⟨_, hname ▸ (m'.find?_of_typed he).1, m'.lists_of_mem (m'.mem_views he)⟩
  case rollup => rfl
  case layout => exact hlayout.symm

/-- **A collection that is not shown changes nothing.** -/
theorem document_eq_of_typed (htyped : m.typed = m'.typed.filter fun e => e.1.name ≠ name)
    (hhidden : ∀ c, m'.index.find? (.text name) = some c → c.isShown = false) :
    m'.document = m.document := by
  have hall : m.typed = m'.typed := by
    rw [htyped, List.filter_eq_self]
    refine fun e he => decide_eq_true fun hname => ?_
    obtain ⟨hc, hshown⟩ := m'.find?_of_typed he
    rw [hhidden _ (hname ▸ hc)] at hshown
    cases hshown
  have hblocks : m.blocks = m'.blocks :=
    Except.ok.inj (m.blocks_ok.symm.trans (hall ▸ m'.blocks_ok))
  unfold document
  rw [hall, hblocks]

end Making

/-- **One more collection changes nothing else.** If a document comes out of a
schema with one more entry, under a name that is new, one comes out without the
entry. The document with the entry has the declarations of the other one and at
most one more, for the new collection, and so it is with the members that list
the collections. If the new collection is the host's and the project added no
fields to it, the texts are the same. -/
theorem one_more_collection {noted : Bool} {schema schema' records : Value} {options : Options}
    {s : Settings} {name text' : String} (hs : options.settings = .ok s)
    (hentry : schema.WithEntry schema' name) (hfresh : FreshName s schema records name)
    (h : (buildDocument noted schema' options records).text = .ok text') :
    ∃ text, (buildDocument noted schema options records).text = .ok text
      ∧ ∃ (m : Making s schema records) (m' : Making s schema' records),
          text = m.document.text m.layout ∧ text' = m'.document.text m'.layout
            ∧ m.OneMore m' name
            ∧ ((∀ c, m'.index.find? (.text name) = some c →
                c.isSystem = true ∧ c.hasCustomFields = false) → text' = text) := by
  obtain ⟨m', rfl⟩ := (buildDocument_ok_iff hs).mp h
  obtain ⟨m, htyped, hlayout⟩ := m'.exists_without hentry hfresh
  refine ⟨_, (buildDocument_ok_iff hs).mpr ⟨m, rfl⟩, m, m', rfl, rfl,
    Making.oneMore_of_typed htyped hlayout, fun hhost => ?_⟩
  have hhidden : ∀ c, m'.index.find? (.text name) = some c → c.isShown = false := by
    intro c hc
    obtain ⟨hsystem, hcustom⟩ := hhost c hc
    unfold Collection.isShown
    rw [hsystem, hcustom]
    rfl
  rw [Making.document_eq_of_typed htyped hhidden, hlayout]

/-! ## A blog with one more collection -/

namespace Outline

variable {o o' : Outline}

theorem entriesOf_overview (o : Outline) :
    entriesOf o.overview = o.collections.map fun c => .object c.overviewEntry := by
  show ((o.collections.map _).map _).map Prod.snd = _
  simp only [List.map_map]
  rfl

/-- An outline with one more collection is an overview with one more entry. -/
theorem withEntry_overview {c : CollectionOutline}
    (hcollections : o'.collections = o.collections ++ [c]) (hrelations : o'.relations = o.relations) :
    o.overview.WithEntry o'.overview c.name where
  entries := by
    refine ⟨o.collections.map fun c => .object c.overviewEntry, [], c.overviewEntry, ?_, ?_, rfl⟩
    · rw [entriesOf_overview, List.append_nil]
    · rw [entriesOf_overview, hcollections, List.map_append]
      rfl
  fields := rfl
  relations := by
    show o'.relationsValue = o.relationsValue
    unfold relationsValue
    rw [hrelations]

/-- A name is new to an overview if the outline does not have it. -/
theorem freshName_overview (s : Settings) {name : String}
    (hname : name ∉ o.collections.map CollectionOutline.name)
    (hsides : ∀ r ∈ o.relations, ∀ sides, r.sides = some sides →
      sides.oneCollection ≠ some name ∧ sides.manyCollection ≠ some name) :
    FreshName s o.overview .null name where
  indexed := by
    intro ix hix
    rw [index_null, o.ofSchema_overview] at hix
    rw [← Except.ok.inj hix, Table.find?_eq_none_iff, Table.keys, entries_overviewIndex,
      List.map_map]
    intro hkey
    obtain ⟨c, hc, hsame⟩ := List.mem_map.mp hkey
    exact hname (Key.text.inj hsame ▸ List.mem_map_of_mem hc)
  owned := fun r hr => absurd hr List.not_mem_nil
  related := by
    intro rs hrs r hr sides hr'
    rw [overview, ofSchema_relationsValue rfl] at hrs
    rw [← Except.ok.inj hrs] at hr
    obtain ⟨r, hmem, rfl⟩ := List.mem_map.mp hr
    obtain ⟨sides, hs, rfl⟩ := Option.map_eq_some_iff.mp hr'
    have htext : ∀ t : Option String, t ≠ some name → Value.ofText? t ≠ .text name := by
      intro t ht hsame
      cases t with
      | none => cases hsame
      | some t => exact ht (congrArg some (Value.text.inj hsame))
    exact (hsides r hmem sides hs).imp (htext _) (htext _)

end Outline

/-- The roles of the host are built in, and not the project's in any part. -/
theorem blog_roles_hidden (m : Making {} Outline.blogWithRoles.overview .null) :
    ∀ c, m.index.find? (.text "directus_roles") = some c →
      c.isSystem = true ∧ c.hasCustomFields = false := by
  have hchecked : (Making.viewsOf {} Outline.blogWithRoles.overview .null).toOption.all (fun r =>
      (r.1.find? (.text "directus_roles")).all fun c =>
        decide (c.isSystem = true ∧ c.hasCustomFields = false)) = true := by
    decide +kernel
  rw [m.viewsOf_eq] at hchecked
  intro c hc
  replace hchecked : (m.index.find? (.text "directus_roles")).all _ = true := hchecked
  rw [hc] at hchecked
  exact of_decide_eq_true hchecked

/-- Tags add to the document of a blog what is theirs, and roles of the host
add nothing. -/
theorem blog_one_more_collection :
    Options.absent.settings = .ok {}
      ∧ (∃ text text', (buildDocument false Outline.blog.overview .absent .null).text = .ok text
          ∧ (buildDocument false Outline.blogTagged.overview .absent .null).text = .ok text'
          ∧ ∃ (m : Making {} Outline.blog.overview .null)
              (m' : Making {} Outline.blogTagged.overview .null),
              text = m.document.text m.layout ∧ text' = m'.document.text m'.layout
                ∧ m.OneMore m' "tags")
      ∧ ∃ text, (buildDocument false Outline.blog.overview .absent .null).text = .ok text
          ∧ (buildDocument false Outline.blogWithRoles.overview .absent .null).text = .ok text := by
  have hs : Options.absent.settings = .ok {} := rfl
  obtain ⟨tagged, htagged⟩ := Outline.blogTagged.exists_text false hs rfl
  obtain ⟨roles, hroles⟩ := Outline.blogWithRoles.exists_text false hs rfl
  refine ⟨hs, ?_, ?_⟩
  · have hentry : Outline.blog.overview.WithEntry Outline.blogTagged.overview "tags" :=
      Outline.withEntry_overview (c := Outline.tags) rfl rfl
    have hfresh : FreshName {} Outline.blog.overview .null "tags" :=
      Outline.freshName_overview {} (by decide) (by decide)
    obtain ⟨text, htext, m, m', hm, hm', hmore, -⟩ :=
      one_more_collection hs hentry hfresh htagged
    exact ⟨text, tagged, htext, htagged, m, m', hm, hm', hmore⟩
  · have hentry : Outline.blog.overview.WithEntry Outline.blogWithRoles.overview "directus_roles" :=
      Outline.withEntry_overview (c := Outline.roles) rfl rfl
    have hfresh : FreshName {} Outline.blog.overview .null "directus_roles" :=
      Outline.freshName_overview {} (by decide) (by decide)
    obtain ⟨text, htext, m, m', hm, hm', hmore, hsame⟩ :=
      one_more_collection hs hentry hfresh hroles
    exact ⟨text, htext, hsame (blog_roles_hidden m') ▸ hroles⟩

end CollectionTypes
