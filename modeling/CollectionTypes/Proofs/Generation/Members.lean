import CollectionTypes.Proofs.Document.Content

/-!
# The member of a field

A document has one declaration for each collection that is shown, and this
has one member for each field that is shown. So every such field has a member
of its own: there is exactly one that stands under the name of the field in
the declaration of its collection, and it has the type that the field has in
the collection (`Making.exists_member`).
-/

namespace CollectionTypes

open Outcome

/-- Members that describe fields with distinct names have distinct names. -/
theorem Member.nodup_names {s : Settings} {c : Collection} {fs : List Field}
    {members : List Member} (h : List.Forall₂ (Member.Describes s c) fs members)
    (hd : (fs.map Field.name).Nodup) : (members.map Member.name).Nodup := by
  have hnames : fs.map Field.name = (members.map Member.name).map Name.text := by
    rw [List.map_map, ← List.forall₂_eq_eq_eq, List.forall₂_map_left_iff,
      List.forall₂_map_right_iff]
    exact h.imp fun _ _ hdescribes => hdescribes.name
  exact List.Nodup.of_map Name.text (hnames ▸ hd)

namespace Making

variable {s : Settings} {schema records : Value} (m : Making s schema records)

/-- The collections that the document declares types for, in its order. -/
def declaredCollections : List Collection :=
  m.typed.map fun e => e.1.collection

/-- The declarations, each with the collection that it is for. -/
def declarations : List (Collection × Block) :=
  m.declaredCollections.zip m.document.blocks

/-- **A member is that of a field** of a collection: it stands in the
declaration of the collection under the name of the field. -/
def IsMember (c : Collection) (f : Field) (member : Member) : Prop :=
  ∃ b, (c, b) ∈ m.declarations ∧ member ∈ b.members ∧ f.name = .text member.name

theorem mem_declaredCollections {c : Collection} :
    c ∈ m.declaredCollections ↔ c ∈ m.index.values ∧ c.isShown = true := by
  unfold declaredCollections
  rw [m.describes.shown.mem_iff, List.mem_filter]

theorem nodup_declaredCollections : m.declaredCollections.Nodup := by
  refine m.describes.ascending.imp ?_
  rintro c c' ⟨name, name', hname, hname', hlt⟩ rfl
  rw [Name.text.inj (hname.symm.trans hname')] at hlt
  exact absurd hlt (String.lt_irrefl name')

theorem map_fst_declarations : m.declarations.map Prod.fst = m.declaredCollections :=
  List.map_fst_zip (Nat.le_of_eq (List.forall₂_iff_zip.mp m.describes.blocks).1)

/-- **The declarations are those of the views.** -/
theorem mem_declarations {c : Collection} {b : Block} :
    (c, b) ∈ m.declarations
      ↔ ∃ e ∈ m.typed, e.1.collection = c ∧ View.declared s e = .ok b := by
  obtain ⟨hlength, hdeclared⟩ := List.forall₂_iff_zip.mp (mapM_ok_iff.mp m.blocks_ok)
  have hzip : m.declarations = (m.typed.zip m.blocks).map fun p => (p.1.1.collection, p.2) :=
    List.zip_map_left
  rw [hzip, List.mem_map]
  constructor
  · rintro ⟨⟨e, b⟩, hmem, hsame⟩
    cases hsame
    exact ⟨e, (List.of_mem_zip hmem).1, rfl, hdeclared hmem⟩
  · rintro ⟨e, he, rfl, hb⟩
    rw [← List.map_fst_zip (Nat.le_of_eq hlength)] at he
    obtain ⟨⟨e, b'⟩, hmem, rfl⟩ := List.mem_map.mp he
    obtain rfl : b = b' := Except.ok.inj (hb.symm.trans (hdeclared hmem))
    exact ⟨_, hmem, rfl⟩

theorem find?_of_declaration {c : Collection} {b : Block} (h : (c, b) ∈ m.declarations) :
    ∃ key, m.index.find? key = some c ∧ c.isShown = true := by
  have hc : c ∈ m.declaredCollections := (List.of_mem_zip h).1
  obtain ⟨hc, hshown⟩ := m.mem_declaredCollections.mp hc
  obtain ⟨key, hkey⟩ := Table.mem_values_iff.mp hc
  exact ⟨key, hkey, hshown⟩

theorem describes_of_declaration {c : Collection} {b : Block} (h : (c, b) ∈ m.declarations) :
    b.Describes s c := by
  obtain ⟨e, he, rfl, hb⟩ := m.mem_declarations.mp h
  exact m.describes_of_mem he hb

/-- A collection that is shown has one declaration. -/
theorem exists_declaration {c : Collection} (hc : c ∈ m.index.values) (hshown : c.isShown = true) :
    ∃ b, ∀ b', (c, b') ∈ m.declarations ↔ b' = b := by
  have hmem : c ∈ m.declarations.map Prod.fst := by
    rw [m.map_fst_declarations]
    exact m.mem_declaredCollections.mpr ⟨hc, hshown⟩
  have hnodup : (m.declarations.map Prod.fst).Nodup := by
    rw [m.map_fst_declarations]
    exact m.nodup_declaredCollections
  obtain ⟨⟨c, b⟩, hb, rfl⟩ := List.mem_map.mp hmem
  refine ⟨b, fun b' => ⟨fun hb' => ?_, fun h => h ▸ hb⟩⟩
  exact (Prod.mk.inj (List.inj_on_of_nodup_map hnodup hb' hb rfl)).2

/-- **A field that is shown has one member**, of the type that the field has
in its collection. -/
theorem exists_member {key : Key} {c : Collection} (hc : m.index.find? key = some c)
    (hshown : c.isShown = true) {f : Field} (hf : f ∈ c.shownFields) :
    ∃ member t, (∀ x, m.IsMember c f x ↔ x = member)
      ∧ f.memberType s c.primary = .ok t ∧ member.type = t.expr.text := by
  obtain ⟨b, hb⟩ := m.exists_declaration (Table.mem_values_iff.mpr ⟨key, hc⟩) hshown
  obtain ⟨ordered, horder, hmembers⟩ := (m.describes_of_declaration ((hb b).mpr rfl)).members
  have hnames : (b.members.map Member.name).Nodup :=
    Member.nodup_names hmembers
      ((horder.perm.map Field.name).nodup_iff.mpr (m.keyed key c hc).nodup_shownFields)
  obtain ⟨member, hmember, hdescribes⟩ :=
    forall₂_exists_right hmembers (horder.perm.mem_iff.mpr hf)
  obtain ⟨t, ht, htype⟩ := hdescribes.type
  refine ⟨member, t, fun x => ?_, ht, htype⟩
  constructor
  · rintro ⟨b', hb', hx, hname⟩
    obtain rfl := (hb b').mp hb'
    have hsame : x.name = member.name := Name.text.inj (hname.symm.trans hdescribes.name)
    exact List.inj_on_of_nodup_map hnames hx hmember hsame
  · rintro rfl
    exact ⟨b, (hb b).mpr rfl, hmember, hdescribes.name⟩

end Making

end CollectionTypes
