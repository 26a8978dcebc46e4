import CollectionTypes.Proofs.Generation.Outlined
import Mathlib.Data.List.Nodup

/-!
# What a document says

A document describes an index (`Document.Describes`): it declares a type for
each collection that is shown, in strictly ascending order of their names,
and no other type but the last, which lists the same collections in the same
order. A declaration has one member for each field that is shown of its
collection, and none besides. The members without a link come first, in the
order of the schema, and those with a link follow in strictly ascending order
of their names (`MemberOrder`).

Every document that comes out describes the index that it was made of
(`built_document_describes`). Nothing is lost, doubled or moved on the way
from the index over the views to the declarations: viewing keeps the
collections that are shown, ordering permutes them, and typing and declaring
go member by member.
-/

namespace CollectionTypes

open Outcome

/-- **Fields in the order of members.** -/
structure MemberOrder (fs ordered : List Field) : Prop where
  /-- No field is lost and none is added. -/
  perm : ordered.Perm fs
  /-- Fields without a link come first, -/
  plainFirst : ordered.Pairwise fun f g => f.relation.isSome → g.relation.isSome
  /-- in the order in which they were given. -/
  plain : ordered.filter (fun f => f.relation.isNone) = fs.filter fun f => f.relation.isNone
  /-- Fields with a link are in the order of their names. -/
  linked : (ordered.filter fun f => f.relation.isSome).Pairwise
    fun f g => f.name.Precedes g.name

/-- **A member describes a field** of a collection. -/
structure Member.Describes (s : Settings) (c : Collection) (f : Field) (m : Member) :
    Prop where
  name : f.name = .text m.name
  type : ∃ t, f.memberType s c.primary = .ok t ∧ m.type = t.expr.text

/-- **A declaration describes a collection.** -/
structure Block.Describes (s : Settings) (c : Collection) (b : Block) : Prop where
  named : ∃ name, c.name = .text name ∧ b.typeName = c.declaredName s name
    ∧ b.baseType = ((c.extended? s name).map Extension.localName).getD ""
  members : ∃ ordered, MemberOrder c.shownFields ordered
    ∧ List.Forall₂ (Member.Describes s c) ordered b.members

/-- **A member lists a collection** under the singular of its name, as one
item or as many. -/
def Member.Lists (s : Settings) (c : Collection) (m : Member) : Prop :=
  ∃ name, c.name = .text name ∧ m.name = Naming.singular name
    ∧ m.type = if c.singleton then c.declaredName s name
        else c.declaredName s name ++ "[]"

/-- **A document describes collections** of an index, one after the other. -/
structure Document.Describes (s : Settings) (ix : Index) (cs : List Collection)
    (d : Document) : Prop where
  /-- They are the collections that are shown, -/
  shown : cs.Perm (ix.values.filter Collection.isShown)
  /-- in the order of their names. -/
  ascending : cs.Pairwise fun c c' => c.name.Precedes c'.name
  blocks : List.Forall₂ (Block.Describes s) cs d.blocks
  rollupName : d.rollup.typeName = s.rollupTypeName
  rollup : List.Forall₂ (Member.Lists s) cs d.rollup.members

/-! ## Members in order -/

/-- **Members are fields in their order**, if the names of the fields are
distinct texts. -/
theorem memberOrder_of_memberFields {fs ordered : List Field}
    (h : memberFields fs = .ok ordered) (hd : (fs.map Field.name).Nodup)
    (ht : ∀ f ∈ ordered, f.name.text?.isSome = true) : MemberOrder fs ordered := by
  have hordered := memberFields_perm h
  unfold memberFields at h
  obtain ⟨linked, hlinked, h⟩ := bind_ok_iff.mp h
  cases h
  have hperm := arrange_perm hlinked
  have htexts : ∀ f ∈ fs.filter (fun f => f.relation.isSome), f.name.text?.isSome = true :=
    fun f hf => ht f (List.mem_append_right _ (hperm.mem_iff.mpr hf))
  rw [arrange_eq_sortedBy htexts] at hlinked
  have hnames : ((fs.filter fun f => f.relation.isSome).map Field.name).Nodup :=
    hd.sublist (List.filter_sublist.map Field.name)
  have hsome : ∀ f ∈ linked, f.relation.isSome = true := fun f hf =>
    (List.mem_filter.mp (hperm.mem_iff.mp hf)).2
  have hnone : ∀ f ∈ fs.filter (fun f => f.relation.isNone), f.relation.isNone = true :=
    fun f hf => (List.mem_filter.mp hf).2
  have hnotNone : ∀ f ∈ linked, ¬ f.relation.isNone = true := by
    intro f hf
    rw [Option.isNone_eq_false_iff.mpr (hsome f hf)]
    exact Bool.false_ne_true
  have hnotSome : ∀ f ∈ fs.filter (fun f => f.relation.isNone), ¬ f.relation.isSome = true := by
    intro f hf
    rw [Option.isSome_eq_false_iff.mpr (hnone f hf)]
    exact Bool.false_ne_true
  constructor
  case perm => exact hordered
  case plainFirst =>
    refine List.pairwise_append.mpr ⟨?_, ?_, fun f _ g hg _ => hsome g hg⟩
    · exact List.pairwise_of_forall_mem_list fun f hf g _ h => absurd h (hnotSome f hf)
    · exact List.pairwise_of_forall_mem_list fun f _ g hg _ => hsome g hg
  case plain =>
    rw [List.filter_append, List.filter_eq_nil_iff.mpr hnotNone, List.append_nil]
    exact List.filter_eq_self.mpr hnone
  case linked =>
    rw [List.filter_append, List.filter_eq_nil_iff.mpr hnotSome, List.nil_append,
      List.filter_eq_self.mpr hsome, ← Except.ok.inj hlinked]
    exact precedes_sortedBy hnames htexts

/-! ## From the index to the declarations -/

namespace Making

variable {s : Settings} {schema records : Value} (m : Making s schema records)

/-- **The views of a document are in strictly ascending order of their
names.** -/
theorem ascending_typed : m.typed.Pairwise fun e e' => e.1.name < e'.1.name := by
  rw [← List.pairwise_map (f := Prod.fst) (R := fun v w : View => v.name < w.name),
    m.map_fst_typed]
  exact ascending_sortedBy m.nodup_names

/-- **The members of a view have the order of members.** -/
theorem memberOrder_of_mem {e : View.Typed} {b : Block} (he : e ∈ m.typed)
    (hb : View.declared s e = .ok b) :
    MemberOrder e.1.collection.shownFields e.1.fields := by
  have hv := m.mem_views he
  obtain ⟨key, hkeyed⟩ := m.keyed_of_mem hv
  refine memberOrder_of_memberFields (m.shows_of_mem hv).fields hkeyed.nodup_shownFields ?_
  -- a member is named by a text, or there would be no declaration
  have hfields : e.2.map Prod.fst = e.1.fields :=
    (View.typed_ok_iff.mp (m.typed_of_mem he)).2.1
  intro f hf
  rw [← hfields] at hf
  obtain ⟨p, hp, rfl⟩ := List.mem_map.mp hf
  obtain ⟨member, -, hspells⟩ := forall₂_exists_right (View.declared_ok_iff.mp hb).2.2.2 hp
  exact Name.isText_of_eq hspells.1

/-- **The declaration of a view describes its collection.** -/
theorem describes_of_mem {e : View.Typed} {b : Block} (he : e ∈ m.typed)
    (hb : View.declared s e = .ok b) : b.Describes s e.1.collection := by
  have hshows := m.shows_of_mem (m.mem_views he)
  obtain ⟨-, hfields, htypes⟩ := View.typed_ok_iff.mp (m.typed_of_mem he)
  obtain ⟨-, htypeName, hbase, hmembers⟩ := View.declared_ok_iff.mp hb
  refine ⟨⟨e.1.name, hshows.name, ?_, ?_⟩, e.1.fields, m.memberOrder_of_mem he hb, ?_⟩
  · rw [htypeName, hshows.typeName]
  · rw [hbase, hshows.base]
  · rw [← hfields, List.forall₂_map_left_iff]
    refine ((List.forall₂_and_left _ _).mpr ⟨htypes, hmembers⟩).imp ?_
    rintro p member ⟨htype, hname, htext⟩
    exact ⟨hname, p.2, htype, htext⟩

/-- **The last declaration lists the collections.** -/
theorem lists_of_mem {v : View} (hv : v ∈ m.views) :
    v.rollupMember.Lists s v.collection := by
  have hshows := m.shows_of_mem hv
  refine ⟨v.name, hshows.name, hshows.identifier, ?_⟩
  rw [← hshows.typeName]
  rfl

/-- **A document describes the index that it was made of.** -/
theorem describes : m.document.Describes s m.index (m.typed.map fun e => e.1.collection) where
  shown := by
    rw [← m.map_collection_views]
    have hperm := m.map_fst_typed_perm.map View.collection
    rw [List.map_map] at hperm
    exact hperm
  ascending := by
    rw [List.pairwise_map]
    refine m.ascending_typed.imp_of_mem fun he he' h => ?_
    exact ⟨_, _, (m.shows_of_mem (m.mem_views he)).name,
      (m.shows_of_mem (m.mem_views he')).name, h⟩
  blocks := by
    rw [List.forall₂_map_left_iff]
    have hmem : ∀ e ∈ m.typed, e ∈ m.typed := fun _ h => h
    refine ((List.forall₂_and_left _ _).mpr ⟨hmem, mapM_ok_iff.mp m.blocks_ok⟩).imp ?_
    rintro e b ⟨he, hb⟩
    exact m.describes_of_mem he hb
  rollupName := rfl
  rollup := by
    have hmembers : m.document.rollup.members = m.typed.map fun e => e.1.rollupMember :=
      List.map_map
    rw [hmembers, List.forall₂_map_left_iff, List.forall₂_map_right_iff, List.forall₂_same]
    exact fun e he => m.lists_of_mem (m.mem_views he)

end Making

/-- **What a document says.** Every document that comes out describes the
index that it was made of: one declaration for each collection that is shown,
in strictly ascending order of their names, with one member for each field
that is shown. -/
theorem built_document_describes {noted : Bool} {schema records : Value} {options : Options}
    {s : Settings} {text : String} (hs : options.settings = .ok s)
    (h : (buildDocument noted schema options records).text = .ok text) :
    ∃ m : Making s schema records, text = m.document.text m.layout
      ∧ ∃ cs, m.document.Describes s m.index cs := by
  obtain ⟨m, rfl⟩ := (buildDocument_ok_iff hs).mp h
  exact ⟨m, rfl, _, m.describes⟩

/-- The document of a blog describes it. -/
theorem blog_document_describes :
    Options.absent.settings = .ok {}
      ∧ ∃ text, (buildDocument false Outline.blog.overview .absent .null).text = .ok text
        ∧ ∃ m : Making {} Outline.blog.overview .null, text = m.document.text m.layout
          ∧ ∃ cs, m.document.Describes {} m.index cs := by
  have hs : Options.absent.settings = .ok {} := rfl
  obtain ⟨text, htext⟩ := Outline.blog.exists_text false hs rfl
  exact ⟨hs, text, htext, built_document_describes hs htext⟩

end CollectionTypes
