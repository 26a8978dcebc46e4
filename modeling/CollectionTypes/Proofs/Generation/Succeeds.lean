import CollectionTypes.Proofs.Document.Decoded
import CollectionTypes.Proofs.Schema.WellTyped

/-!
# Schemas that have a document

A schema that is typed as far as it has to be goes through all stages: it is
indexed, its relations are linked, its collections are viewed, typed and
declared, and every part of the document is filled in. The layout has to be
possible; nothing else can fail (`well_typed_schema_has_document`).
-/

namespace CollectionTypes

open Outcome

/-- **A typed schema goes through all stages**, if the layout is possible. -/
theorem Making.nonempty_of_wellTyped {s : Settings} {l : Layout} (hl : s.layout = .ok l)
    {schema records : Value} (hschema : schema.WellTyped) (hrecords : records.TypedRecords) :
    Nonempty (Making s schema records) := by
  obtain ⟨ix, hix, htextual⟩ := Run.exists_textual_index s hschema hrecords
  obtain ⟨rs, hrs, hsides⟩ := Relation.exists_ofSchema hschema
  obtain ⟨hfault, hlinked⟩ := Linking.resolve_textual htextual hsides
  obtain ⟨text, htext⟩ := Document.exists_text hlinked hl
  obtain ⟨vs, es, bs, l', hvs, hes, hbs, hl', -⟩ := Document.textOfIndex_ok_iff.mp htext
  exact ⟨⟨ix, rs, vs, es, bs, l', hix, hrs, hfault, hvs, hes, hbs, hl'⟩⟩

/-- **A typed schema has a document.** Whatever else a schema holds, if it is
typed as far as it has to be, and so are the records of its fields, nothing fails
under settings whose layout is possible: all stages go well, the text that comes
out is that of the document, and the parts of the document make it. -/
theorem well_typed_schema_has_document {noted : Bool} {schema records : Value}
    {options : Options} {s : Settings} {l : Layout} (hs : options.settings = .ok s)
    (hl : s.layout = .ok l) (hschema : schema.WellTyped) (hrecords : records.TypedRecords) :
    ∃ m : Making s schema records,
      (buildDocument noted schema options records).text = .ok (m.document.text m.layout)
        ∧ m.document.contents.rendered s = .ok (m.document.text m.layout) := by
  obtain ⟨m⟩ := Making.nonempty_of_wellTyped hl hschema hrecords
  exact ⟨m, (buildDocument_ok_iff hs).mpr ⟨m, rfl⟩, m.rendered_contents⟩

/-- A schema that is typed as far as it has to be, and no further. -/
def Value.untidy : Value :=
  .object
    [("collections", .list
      [.null, .int 3, .object [("collection", .null), ("fields", .bool true)],
        .object
          [("collection", .text "posts"), ("meta", .list []), ("primary", .list [.int 1]),
            ("fields", .object
              [("id", .object [("type", .text "integer"), ("schema", .text "none")]),
                ("tags", .int 5),
                ("author", .object [("type", .bool true), ("nullable", .object [])])])]]),
      ("fields", .list
        [.text "posts",
          .object
            [("collection", .text "directus_users"), ("field", .text "shoe size"),
              ("meta", .object [("system", .list [])])]]),
      ("relations", .list
        [.null, .object [("field", .int 7), ("meta", .text "none")],
          .object
            [("schema", .object [("foreign_key_column", .list [.null])]),
              ("meta", .object
                [("one_collection", .text "directus_users"), ("one_field", .null),
                  ("many_collection", .text "posts"), ("many_field", .text "author")])]])]

/-- An untidy schema has a document. -/
theorem untidy_schema_has_document :
    Options.absent.settings = .ok {} ∧ Settings.layout {} = .ok ⟨[' ', ' '], []⟩
      ∧ Value.untidy.WellTyped ∧ Value.null.TypedRecords
      ∧ ∃ m : Making {} Value.untidy .null,
          (buildDocument false Value.untidy .absent .null).text = .ok (m.document.text m.layout)
            ∧ m.document.contents.rendered {} = .ok (m.document.text m.layout) := by
  have hs : Options.absent.settings = .ok {} := rfl
  have hl : Settings.layout {} = .ok ⟨[' ', ' '], []⟩ := rfl
  have hschema : Value.untidy.WellTyped := by decide +kernel
  have hrecords : Value.null.TypedRecords := trivial
  exact ⟨hs, hl, hschema, hrecords, well_typed_schema_has_document hs hl hschema hrecords⟩

end CollectionTypes
