import CollectionTypes.Proofs.Document.Shown
import CollectionTypes.Proofs.Schema.Ownership

/-!
# What survives of the host's collections

A collection of the host has a view exactly if some field of it is not the host's,
and the view has those fields and no others. Whose a field is goes by one rule
(`Value.hostOwns`), from which nothing takes away on the way to the views. So the
rule tells which collections of the host there are in a document, and what of them
(`ownership_is_resolved`).
-/

namespace CollectionTypes

open Outcome

namespace Collection

/-- **The fields of a collection that the rule gives to the project**, in their order. -/
def projectFields (mark : String) (schema records : Value) (key : Key) (c : Collection) :
    List Field :=
  (c.fields.entries.filter fun e => !Value.hostOwns mark schema records (key, e.1)).map Prod.snd

theorem projectFields_ne_nil_iff {mark : String} {schema records : Value} {key : Key}
    {c : Collection} :
    c.projectFields mark schema records key ≠ []
      ↔ ∃ f ∈ c.fields.keys, Value.hostOwns mark schema records (key, f) = false := by
  unfold projectFields Table.keys
  rw [Ne, List.map_eq_nil_iff, List.filter_eq_nil_iff]
  simp

theorem hasCustomFields_iff {c : Collection} :
    c.hasCustomFields = true ↔ c.customFields ≠ [] := by
  unfold hasCustomFields customFields
  rw [List.any_eq_true, Ne, List.filter_eq_nil_iff]
  simp

end Collection

section Resolved

variable {s : Settings} {schema records : Value} {ix : Index}

/-- The fields that are not the host's are those that the rule gives to the project. -/
theorem customFields_eq_projectFields (h : (Run.index s schema records).outcome = .ok ix)
    (rs : List Relation) {key : Key} {c : Collection}
    (hc : (Linking.resolve ix rs).index.find? key = some c) :
    c.customFields = c.projectFields s.systemPrefix schema records key := by
  unfold Collection.customFields Collection.projectFields Table.values
  rw [List.filter_map]
  refine congrArg (List.map Prod.snd) (List.filter_congr fun e he => ?_)
  have hfield : (Linking.resolve ix rs).index.fieldAt? (key, e.1) = some e.2 :=
    Option.bind_eq_some_iff.mpr ⟨c, hc, Table.find?_eq_some_iff.mpr he⟩
  show (!e.2.system) = _
  rw [Run.system_of_resolved h rs hfield]

/-- **A collection of the host survives** exactly if the rule gives a field of it to the
project, and with those fields. -/
theorem survives_iff (h : (Run.index s schema records).outcome = .ok ix) {rs : List Relation}
    {views : List View}
    (hviews : (View.ofIndex s (Linking.resolve ix rs).index).outcome = .ok views)
    {key : Key} {c : Collection} (hc : (Linking.resolve ix rs).index.find? key = some c)
    (hsystem : c.isSystem = true) :
    ((∃ v ∈ views, v.collection = c)
        ↔ ∃ f ∈ c.fields.keys, Value.hostOwns s.systemPrefix schema records (key, f) = false)
      ∧ ∀ v ∈ views, v.collection = c →
          v.fields.Perm (c.projectFields s.systemPrefix schema records key) := by
  have hcustom := customFields_eq_projectFields h rs hc
  obtain ⟨hcollections, hshows⟩ := View.ofIndex_ok_iff.mp hviews
  constructor
  · rw [← List.mem_map, hcollections, List.mem_filter,
      and_iff_right (Table.mem_values_iff.mpr ⟨key, hc⟩), Collection.isShown, hsystem,
      Bool.not_true, Bool.false_or, Collection.hasCustomFields_iff, hcustom]
    exact Collection.projectFields_ne_nil_iff
  · rintro v hv rfl
    have hfields := memberFields_perm (hshows v hv).fields
    rw [Collection.shownFields_of_host hsystem, hcustom] at hfields
    exact hfields

end Resolved

/-- **Whose a field is**, from a schema to its views. A record that says nothing could as
well not be there. Every indexed field is the host's or the project's as the rule says: by
the last record that says something of it, else by the meta data of its last description,
else by the mark of its collection. A collection of the host has a view exactly if the rule
gives a field of it to the project, and the view has those fields. -/
theorem ownership_is_resolved (s : Settings) (schema records : Value) :
    (∀ r : Value, r.IsIdle → ∀ before after,
        Flags.ofRecords (.list (before ++ r :: after)) = Flags.ofRecords (.list (before ++ after)))
      ∧ ∀ ix, (Run.index s schema records).outcome = .ok ix →
        (∀ place f, ix.fieldAt? place = some f →
            f.system = Value.hostOwns s.systemPrefix schema records place)
          ∧ ∀ rs views, (View.ofIndex s (Linking.resolve ix rs).index).outcome = .ok views →
            ∀ key c, (Linking.resolve ix rs).index.find? key = some c → c.isSystem = true →
              ((∃ v ∈ views, v.collection = c)
                  ↔ ∃ f ∈ c.fields.keys,
                    Value.hostOwns s.systemPrefix schema records (key, f) = false)
                ∧ ∀ v ∈ views, v.collection = c →
                    v.fields.Perm (c.projectFields s.systemPrefix schema records key) := by
  refine ⟨fun r hr before after => Flags.ofRecords_idle hr before after, fun ix h => ⟨?_, ?_⟩⟩
  · exact fun place f hf => Run.system_of_fieldAt? h hf
  · intro rs views hviews key c hc hsystem
    exact survives_iff h hviews hc hsystem

/-- A collection of the host with fields whose meta data say that they are the host's, that
they are not, or nothing. -/
def roster : Value :=
  .object [("collections", .object [("directus_users", .object [
    ("collection", .text "directus_users"),
    ("fields", .list [
      .object [("field", .text "id"), ("meta", .object [("system", .bool true)])],
      .object [("field", .text "team"), ("meta", .object [("system", .bool true)])],
      .object [("field", .text "nickname"), ("meta", .object [])],
      .object [("field", .text "email")]])])])]

/-- Records about a field, the last of which has no meta data. -/
def rosterRecords : Value :=
  .list [.object [("collection", .text "directus_users"), ("field", .text "team"),
      ("meta", .object [])],
    .object [("collection", .text "directus_users"), ("field", .text "team")]]

/-- The users of a roster survive with the field that the records give to the project. -/
theorem roster_survives :
    ∃ ix views, (Run.index {} roster rosterRecords).outcome = .ok ix
      ∧ (View.ofIndex {} (Linking.resolve ix []).index).outcome = .ok views
      ∧ (∃ f, ix.fieldAt? (.text "directus_users", .text "team") = some f ∧ f.system = false)
      ∧ ∃ v ∈ views, v.collection.name = .text "directus_users" := by
  have hchecked : (Run.index {} roster rosterRecords).outcome.toOption.any (fun ix =>
      (ix.fieldAt? (.text "directus_users", .text "team")).isSome
        && ((View.ofIndex {} (Linking.resolve ix []).index).outcome.toOption.isSome
        && ((Linking.resolve ix []).index.find? (.text "directus_users")).any fun c =>
          decide (c.isSystem = true ∧ c.name = .text "directus_users"
            ∧ .text "team" ∈ c.fields.keys))) = true := by
    decide +kernel
  obtain ⟨ix, hix, hchecked⟩ := (Option.any_eq_true _ _).mp hchecked
  obtain ⟨hfield, hchecked⟩ := Bool.and_eq_true_iff.mp hchecked
  obtain ⟨hviews, hchecked⟩ := Bool.and_eq_true_iff.mp hchecked
  obtain ⟨f, hf⟩ := Option.isSome_iff_exists.mp hfield
  obtain ⟨views, hviews⟩ := Option.isSome_iff_exists.mp hviews
  obtain ⟨c, hc, hchecked⟩ := (Option.any_eq_true _ _).mp hchecked
  obtain ⟨hsystem, hname, hteam⟩ := of_decide_eq_true hchecked
  have hindex := toOption_eq_some_iff.mp hix
  have hviews := toOption_eq_some_iff.mp hviews
  have hrule : Value.hostOwns "directus_" roster rosterRecords
      (.text "directus_users", .text "team") = false := by
    decide +kernel
  obtain ⟨hfields, hsurvive⟩ := (ownership_is_resolved {} roster rosterRecords).2 ix hindex
  obtain ⟨v, hv, hvc⟩ := (hsurvive [] views hviews _ c hc hsystem).1.mpr ⟨_, hteam, hrule⟩
  exact ⟨ix, views, hindex, hviews, ⟨f, hf, (hfields _ f hf).trans hrule⟩, v, hv, hvc ▸ hname⟩

end CollectionTypes
