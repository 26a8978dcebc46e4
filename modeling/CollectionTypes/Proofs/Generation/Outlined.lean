import CollectionTypes.Proofs.Document.Textual
import CollectionTypes.Proofs.Generation.Making
import CollectionTypes.Proofs.Schema.OutlineShapes

/-!
# Documents of outlines

Texts name everything in an outline, and so in its index, which linking does
not change. Therefore an outline always has a document, if the layout is
possible (`Outline.exists_text`).
-/

namespace CollectionTypes

open Outcome

namespace Outline

variable {o : Outline}

theorem textual_overviewIndex (mark : String) (o : Outline) :
    (o.overviewIndex mark).Textual := by
  intro k c' hc'
  rw [Table.find?_eq_some_iff, entries_overviewIndex] at hc'
  obtain ⟨c, -, hsame⟩ := List.mem_map.mp hc'
  obtain ⟨-, rfl⟩ := Prod.mk.inj hsame
  refine ⟨rfl, fun k f hf => ?_⟩
  rw [Table.find?_eq_some_iff] at hf
  have hentry : (k, f) ∈ c.fields.map fun f => (Key.text f.name, f.field) := by
    rw [← entries_fieldTable c.distinct]
    exact hf
  obtain ⟨g, -, hsame⟩ := List.mem_map.mp hentry
  obtain ⟨-, rfl⟩ := Prod.mk.inj hsame
  -- no field has a link yet
  exact ⟨rfl, fun l hl => absurd hl (Option.some_ne_none l).symm⟩

/-- **What a run makes of relations between texts.** -/
theorem ofSchema_of_relations (noted : Bool) {s : Settings} {schema : Value} {ix : Index}
    (hix : (Run.index s schema .null).outcome = .ok ix)
    (hrs : Relation.ofSchema schema = .ok (o.relations.map RelationOutline.relation)) :
    (Run.ofSchema noted s schema .null).text
        = (Document.textOfIndex s
            (o.relations.foldl (RelationOutline.linkOn ix.primaryOfText) ix)).outcome.mapError
              .document
      ∧ (Run.ofSchema noted s schema .null).warnings
        = o.relations.flatMap RelationOutline.complaints := by
  obtain ⟨hfault, hindex, hwarnings⟩ := Linking.resolve_relations ix o.relations
  obtain ⟨htext, hwarned⟩ := Run.ofSchema_of_linked noted hix hrs hfault
  rw [htext, hwarned, hindex, hwarnings]
  exact ⟨rfl, rfl⟩

/-- The index of the overview with its links. -/
def linkedIndex (mark : String) (o : Outline) : Index :=
  o.relations.foldl (RelationOutline.linkOn (o.overviewIndex mark).primaryOfText)
    (o.overviewIndex mark)

theorem textual_linkedIndex (mark : String) (o : Outline) : (o.linkedIndex mark).Textual :=
  (textual_overviewIndex mark o).foldl_linkOn _ o.relations

theorem keyed_linkedIndex (mark : String) (o : Outline) :
    (o.linkedIndex mark).Keyed (.text mark) := by
  unfold linkedIndex
  rw [← (Linking.resolve_relations (o.overviewIndex mark) o.relations).2.1]
  exact (Index.keyed_ofSchema (o.ofSchema_overview mark)).resolve _

theorem index_null (s : Settings) (schema : Value) :
    (Run.index s schema .null).outcome
      = (Index.ofSchema (.text s.systemPrefix) Table.empty schema).outcome := by
  unfold Run.index
  rw [Traced.outcome_bind]
  rfl

/-- **The run of an overview.** -/
theorem run_overview (noted : Bool) (s : Settings) (o : Outline) :
    (Run.ofSchema noted s o.overview .null).text
        = (Document.textOfIndex s (o.linkedIndex s.systemPrefix)).outcome.mapError .document
      ∧ (Run.ofSchema noted s o.overview .null).warnings
        = o.relations.flatMap RelationOutline.complaints :=
  ofSchema_of_relations noted ((index_null s _).trans (o.ofSchema_overview s.systemPrefix))
    (ofSchema_relationsValue rfl)

/-- An outline has a document in every layout that is possible. -/
theorem exists_text (noted : Bool) (o : Outline) {options : Options} {s : Settings}
    (hs : options.settings = .ok s) {l : Layout} (hl : s.layout = .ok l) :
    ∃ text, (buildDocument noted o.overview options .null).text = .ok text := by
  obtain ⟨text, htext⟩ := Document.exists_text (o.textual_linkedIndex s.systemPrefix) hl
  refine ⟨text, ?_⟩
  unfold buildDocument
  rw [hs]
  exact (o.run_overview noted s).1.trans (mapError_ok_iff.mpr htext)

end Outline

end CollectionTypes
