import CollectionTypes.Document.OfViews
import CollectionTypes.Proofs.Outcome

/-!
# Views with their types, and their declarations

The document of some views is made by going through them once: the members
of a view get their types, the view is declared, and what it mentions of the
host goes to the imports. This module takes the three apart. First all views
are typed (`View.typed`), then all of them are declared (`View.declared`),
and the imports are gathered from the typed views alone
(`View.importsFrom`); `Document.ofViews_ok_iff` says that a document comes
out exactly if the first two go through for every view.

`View.typed_ok_iff` and `View.declared_ok_iff` say what that means for one
view: each member has the type of its field, and is named by a text.
-/

namespace CollectionTypes

open Outcome

namespace View

/-- A view with the types of its members. -/
abbrev Typed := View × List (Field × MemberType)

/-- The view with the types of its members, if all of them have one. -/
def typed (s : Settings) (v : View) : Except Misuse Typed :=
  (v.memberTypes s).map fun types => (v, types)

/-- The declaration of a view with the types of its members. -/
def declared (s : Settings) (e : Typed) : Except DocumentError Block :=
  e.1.block s e.2

/-- The imports with what views mention of the host, one view after the
other. -/
def importsFrom (t : Imports) (es : List Typed) : Imports :=
  es.foldl (fun t e => e.1.addImports t e.2) t

/-- The document of views with the types of their members. -/
def documentOf (s : Settings) (es : List Typed) (bs : List Block) : Document :=
  ⟨(importsFrom (Imports.ofNames [s.primaryKeyType]) es).specifiers, s.hostModule, bs,
    Document.rollupOf s (es.map Prod.fst)⟩

end View

namespace View

variable {s : Settings}

/-- **A view is typed** field by field. -/
theorem typed_ok_iff {v : View} {e : Typed} :
    typed s v = .ok e
      ↔ e.1 = v ∧ e.2.map Prod.fst = v.fields
          ∧ ∀ p ∈ e.2, p.1.memberType s v.collection.primary = .ok p.2 := by
  unfold typed memberTypes
  rw [map_ok_iff]
  constructor
  · rintro ⟨types, h, rfl⟩
    exact ⟨rfl, mapM_along_ok_iff.mp h⟩
  · rintro ⟨rfl, h⟩
    exact ⟨e.2, mapM_along_ok_iff.mpr h, rfl⟩

/-- Views are typed one by one, and stay the views that they are. -/
theorem allTyped_ok_iff {vs : List View} {es : List Typed} :
    vs.mapM (typed s) = .ok es
      ↔ es.map Prod.fst = vs ∧ ∀ e ∈ es, typed s e.1 = .ok e := by
  rw [mapM_ok_iff]
  exact forall₂_along_iff fun v e (h : typed s v = .ok e) => (typed_ok_iff.mp h).1

/-- **A member spells out a typed field**: its name, which is a text, and its
type. -/
def Spells (p : Field × MemberType) (m : Member) : Prop :=
  p.1.name = .text m.name ∧ m.type = p.2.expr.text

theorem member_ok_iff {p : Field × MemberType} {m : Member} :
    member p = .ok m ↔ Spells p m := by
  unfold member Spells
  constructor
  · intro h
    split at h
    · next name hname =>
      cases h
      exact ⟨hname, rfl⟩
    · cases h
  · rintro ⟨hname, htype⟩
    rw [hname, ← htype]

theorem members_ok_iff {ps : List (Field × MemberType)} {ms : List Member} :
    ps.mapM member = .ok ms ↔ List.Forall₂ Spells ps ms := by
  rw [mapM_ok_iff]
  simp only [member_ok_iff]

/-- **A view is declared** if the layout is possible and its members can be
spelt out. -/
theorem declared_ok_iff {e : Typed} {b : Block} :
    declared s e = .ok b
      ↔ (∃ l, s.layout = .ok l) ∧ b.typeName = e.1.typeName
          ∧ b.baseType = (e.1.base.map Extension.localName).getD ""
          ∧ List.Forall₂ Spells e.2 b.members := by
  unfold declared block
  rw [bind_ok_iff]
  simp only [mapError_ok_iff]
  constructor
  · rintro ⟨l, hl, h⟩
    obtain ⟨members, hmembers, h⟩ := bind_ok_iff.mp h
    cases h
    exact ⟨⟨l, hl⟩, rfl, rfl, members_ok_iff.mp hmembers⟩
  · rintro ⟨⟨l, hl⟩, htype, hbase, hmembers⟩
    refine ⟨l, hl, bind_ok_iff.mpr ⟨b.members, members_ok_iff.mpr hmembers, ?_⟩⟩
    rw [← htype, ← hbase]
    rfl

end View

/-! ## Views one after the other -/

/-- **Views are declared one after the other** exactly if the members of
each have types and each can be declared; the imports gather on the way. -/
theorem Document.blocksFrom_ok_iff {s : Settings} {t t' : Imports} {vs : List View}
    {bs : List Block} :
    blocksFrom s t vs = .ok (t', bs)
      ↔ ∃ es, vs.mapM (View.typed s) = .ok es ∧ es.mapM (View.declared s) = .ok bs
          ∧ View.importsFrom t es = t' := by
  induction vs generalizing t t' bs with
  | nil =>
    constructor
    · intro h
      cases h
      exact ⟨[], rfl, rfl, rfl⟩
    · rintro ⟨es, hes, hbs, rfl⟩
      cases hes
      cases hbs
      rfl
  | cons v vs ih =>
    rw [blocksFrom, bind_ok_iff]
    constructor
    · rintro ⟨types, htypes, h⟩
      obtain ⟨b, hb, h⟩ := bind_ok_iff.mp h
      obtain ⟨⟨t₁, bs₁⟩, hrest, h⟩ := bind_ok_iff.mp h
      obtain ⟨es, hes, hbs, rfl⟩ := ih.mp hrest
      cases h
      refine ⟨(v, types) :: es, ?_, ?_, rfl⟩
      · exact mapM_ok_iff.mpr (.cons (map_ok_iff.mpr ⟨_, mapError_ok_iff.mp htypes, rfl⟩)
          (mapM_ok_iff.mp hes))
      · exact mapM_ok_iff.mpr (.cons hb (mapM_ok_iff.mp hbs))
    · rintro ⟨es, hes, hbs, rfl⟩
      obtain ⟨e, es, he, hrest, rfl⟩ := List.forall₂_cons_left_iff.mp (mapM_ok_iff.mp hes)
      obtain ⟨b, bs, hb, hrest', rfl⟩ := List.forall₂_cons_left_iff.mp (mapM_ok_iff.mp hbs)
      obtain ⟨types, htypes, rfl⟩ := map_ok_iff.mp he
      refine ⟨types, mapError_ok_iff.mpr htypes, bind_ok_iff.mpr ⟨b, hb, ?_⟩⟩
      have hblocks : blocksFrom s (v.addImports t types) vs
          = .ok (View.importsFrom (v.addImports t types) es, bs) :=
        ih.mpr ⟨es, mapM_ok_iff.mpr hrest, mapM_ok_iff.mpr hrest', rfl⟩
      exact bind_ok_iff.mpr ⟨_, hblocks, rfl⟩

/-- **Views have a document** exactly if they can be typed and declared. -/
theorem Document.ofViews_ok_iff {s : Settings} {vs : List View} {d : Document} {n : Nat} :
    ofViews s vs = .ok (d, n)
      ↔ ∃ es bs, vs.mapM (View.typed s) = .ok es ∧ es.mapM (View.declared s) = .ok bs
          ∧ d = View.documentOf s es bs
          ∧ n = (View.importsFrom (Imports.ofNames [s.primaryKeyType]) es).size := by
  unfold ofViews
  rw [bind_ok_iff]
  constructor
  · rintro ⟨⟨t, bs⟩, hblocks, h⟩
    obtain ⟨es, hes, hbs, rfl⟩ := blocksFrom_ok_iff.mp hblocks
    cases h
    refine ⟨es, bs, hes, hbs, ?_, rfl⟩
    rw [View.documentOf, (View.allTyped_ok_iff.mp hes).1]
  · rintro ⟨es, bs, hes, hbs, rfl, rfl⟩
    refine ⟨_, blocksFrom_ok_iff.mpr ⟨es, hes, hbs, rfl⟩, ?_⟩
    rw [View.documentOf, (View.allTyped_ok_iff.mp hes).1]
    rfl

end CollectionTypes
