import CollectionTypes.Journal.Collector
import CollectionTypes.Proofs.Generation.Making
import CollectionTypes.Proofs.Schema.Indexing

/-!
# The ways in agree

A schema that is at hand, a schema that an accessor gives, and a report on it
go through one run. Whether the warnings about relations are noted in the
journal has no bearing on what comes out (`Run.outcome_congr`), nor has it that
settings are made out again (`buildAgain_eq`). So `generateTypes` is the run of
`buildDocument`, and `generateCode` tells of that run: what it gave, or why it
failed, and in both cases what was warned of (`Report.Tells`).
-/

namespace CollectionTypes

open Outcome

/-! ## Runs with and without notes -/

section Run

variable {s : Settings} {schema records : Value}

theorem Run.ofLinking_congr (journal journal' : List Entry) (relations : Nat) (w : Linking) :
    (ofLinking s journal relations w).outcome = (ofLinking s journal' relations w).outcome
      ∧ (ofLinking s journal relations w).warnings
        = (ofLinking s journal' relations w).warnings := by
  unfold ofLinking
  cases w.fault <;> exact ⟨rfl, rfl⟩

/-- What is noted in the journal has no bearing on a run. -/
theorem Run.outcome_congr (noted noted' : Bool) :
    (ofSchema noted s schema records).outcome = (ofSchema noted' s schema records).outcome
      ∧ (ofSchema noted s schema records).warnings
        = (ofSchema noted' s schema records).warnings := by
  unfold ofSchema
  dsimp only
  cases (index s schema records).outcome with
  | error m => exact ⟨rfl, rfl⟩
  | ok ix =>
    cases Relation.ofSchema schema with
    | error m => exact ⟨rfl, rfl⟩
    | ok rs => exact ofLinking_congr ..

/-- Settings that are made out again are the same. -/
theorem Settings.settings_assigned (s : Settings) : (Options.assigned s.value).settings = .ok s :=
  s.ofValues_value

/-- **Settings that are made out again** make no difference. -/
theorem buildAgain_eq (s : Settings) :
    buildAgain s schema records = Run.ofSchema false s schema records := by
  unfold buildAgain buildDocument
  rw [s.settings_assigned]

end Run

/-! ## Accessors that give what is at hand -/

section Given

variable (schema records : Value) (options : Options)

theorem generateTypes_gives :
    generateTypes (.gives schema) (.gives records) options
      = buildDocument false schema options records := by
  show fetchAndRun buildAgain (.gives schema) (.gives records) options = _
  unfold fetchAndRun buildDocument
  cases options.settings with
  | error e => rfl
  | ok s => exact buildAgain_eq s

theorem generateCode_gives :
    generateCode (.gives schema) (.gives records) options
      = .ofRun (buildDocument true schema options records) := by
  show Report.ofRun (fetchAndRun (Run.ofSchema true) (.gives schema) (.gives records) options) = _
  unfold fetchAndRun buildDocument
  cases options.settings <;> rfl

theorem buildDocument_noted (noted noted' : Bool) :
    (buildDocument noted schema options records).outcome
        = (buildDocument noted' schema options records).outcome
      ∧ (buildDocument noted schema options records).warnings
        = (buildDocument noted' schema options records).warnings := by
  unfold buildDocument
  cases options.settings with
  | error e => exact ⟨rfl, rfl⟩
  | ok s => exact Run.outcome_congr noted noted'

end Given

/-! ## What a report tells -/

/-- **A report tells of a run** what came out, or why nothing did. -/
structure Report.Tells (r : Run) (report : Report) : Prop where
  warnings : report.warnings = r.warnings
  success : ∀ g, r.outcome = .ok g
    → report.error = none ∧ report.text = g.text ∧ report.metadata = Report.factsOf g
  failure : ∀ e, r.outcome = .error e
    → report.error = some e ∧ report.text = "" ∧ report.metadata = []

theorem Report.ofRun_tells {r r' : Run} (houtcome : r'.outcome = r.outcome)
    (hwarnings : r'.warnings = r.warnings) : (Report.ofRun r').Tells r := by
  unfold ofRun
  rw [houtcome, hwarnings]
  constructor
  case warnings => cases r.outcome <;> rfl
  case success =>
    intro g hg
    rw [hg]
    exact ⟨rfl, rfl, rfl⟩
  case failure =>
    intro e he
    rw [he]
    exact ⟨rfl, rfl, rfl⟩

/-- **A report ends well** exactly if the run gives the text. -/
theorem Report.Tells.text_iff {r : Run} {report : Report} (h : report.Tells r) {text : String} :
    r.text = .ok text ↔ report.error = none ∧ report.text = text := by
  unfold Run.text
  cases houtcome : r.outcome with
  | error e =>
    obtain ⟨herror, -, -⟩ := h.failure e houtcome
    constructor
    · intro htext
      cases htext
    · rintro ⟨hnone, -⟩
      rw [herror] at hnone
      cases hnone
  | ok g =>
    obtain ⟨herror, htext, -⟩ := h.success g houtcome
    rw [and_iff_right herror, htext]
    exact ⟨fun h => Except.ok.inj h, fun h => congrArg _ h⟩

/-- **A collector keeps what it is told**, if no values come with it. -/
theorem Collector.foldlM_warn (c : Collector) (ts : List String) :
    ts.foldlM (fun c t => c.warn t []) c = .ok ⟨c.messages ++ ts⟩ := by
  induction ts generalizing c with
  | nil => rw [List.append_nil, List.foldlM_nil]; rfl
  | cons t ts ih =>
    show ts.foldlM (fun c t => c.warn t []) (Collector.mk (c.messages ++ [t])) = _
    rw [ih, List.append_assoc]
    rfl

/-! ## Facts about what was generated -/

/-- How many objects there are among the items of a list. -/
def Value.objectCount : Value → Nat
  | .list items => items.countP fun v => v.members?.isSome
  | _ => 0

/-- Among the elements of a value there are only the objects of a list: the names
in an object and the characters of a text are texts. -/
theorem Value.countP_elements {v : Value} {vs : List Value} (h : v.elements = .ok vs) :
    vs.countP (fun v => v.members?.isSome) = v.objectCount := by
  cases v with
  | list items => rw [Except.ok.inj h]; rfl
  | object ms =>
    rw [← Except.ok.inj h, List.countP_map]
    exact List.countP_eq_zero.mpr fun _ _ => Bool.false_ne_true
  | text s =>
    rw [← Except.ok.inj h, List.countP_map]
    exact List.countP_eq_zero.mpr fun _ _ => Bool.false_ne_true
  | null => cases h
  | bool b => cases h
  | int n => cases h
  | real x => cases h

theorem Value.objectCount_of_not_truthy {v : Value} (h : ¬ v.truthy = true) :
    v.objectCount = 0 := by
  cases v with
  | list items =>
    cases items with
    | nil => rfl
    | cons v vs => exact absurd rfl h
  | _ => rfl

/-- **There is one relation for each object** among the relations of a schema,
with sides or without. -/
theorem Relation.length_ofSchema {schema : Value} {rs : List Relation}
    (h : Relation.ofSchema schema = .ok rs) :
    rs.length = (schema.part "relations").objectCount := by
  rw [ofSchema_eq_part] at h
  obtain ⟨vs, hvs, h⟩ := bind_ok_iff.mp h
  have hcount : rs.length = vs.countP fun v => v.members?.isSome := by
    rw [← Except.ok.inj h, List.length_filterMap_eq_countP]
    simp only [Option.isSome_map]
  rw [hcount]
  unfold Value.orElse at hvs
  split at hvs
  · exact Value.countP_elements hvs
  · next hfalsy =>
    rw [Value.objectCount_of_not_truthy hfalsy, ← Except.ok.inj hvs]
    rfl

/-- Links leave the collections of an index in their number. -/
theorem Linking.size_resolve (ix : Index) (rs : List Relation) :
    (Linking.resolve ix rs).index.size = ix.size := by
  have hkeys := congrArg List.length (Linking.keys_resolve ix rs)
  unfold Table.keys at hkeys
  rwa [List.length_map, List.length_map] at hkeys

/-! ## All ways in -/

/-- **A report agrees with the document** of a schema, records of its fields, and
options. -/
structure Report.Agrees (schema records : Value) (options : Options) (report : Report) :
    Prop where
  /-- There is no error exactly if a text is built, and the texts are the same. -/
  succeeds : ∀ text, (buildDocument false schema options records).text = .ok text
    ↔ report.error = none ∧ report.text = text
  /-- The warnings are those that a collector is told, whether a text is built or
  not. -/
  warned : (buildDocument false schema options records).warnings.foldlM
      (fun c t => Collector.warn c t []) {} = .ok ⟨report.warnings⟩
  /-- If a text is built, the facts are the numbers of the collections that were
  indexed, of the objects among the relations, and of the links. -/
  facts : ∀ text, (buildDocument false schema options records).text = .ok text →
    ∃ s ix rs, options.settings = .ok s ∧ (Run.index s schema records).outcome = .ok ix
      ∧ Relation.ofSchema schema = .ok rs
      ∧ report.metadata
        = [("language", .text "typescript"), ("file_extension", .text ".ts"),
            ("collection_count", .int ix.size),
            ("relation_count", .int (schema.part "relations").objectCount),
            ("relation_links", .int (Linking.resolve ix rs).links)]
  /-- If none is built, the report says why and has nothing else to tell. -/
  fails : ∀ e, (buildDocument false schema options records).text = .error e →
    report.error = some e ∧ failureText e = "Code generation failed: " ++ e.message
      ∧ report.text = "" ∧ report.metadata = []

theorem Run.text_error_iff {r : Run} {e : GenerationError} :
    r.text = .error e ↔ r.outcome = .error e := by
  unfold text
  cases r.outcome with
  | ok g => constructor <;> intro h <;> cases h
  | error e' =>
    exact ⟨fun h => congrArg _ (Except.error.inj h), fun h => congrArg _ (Except.error.inj h)⟩

/-- **What tells of the run** agrees with the document. -/
theorem Report.Tells.agrees {schema records : Value} {options : Options} {report : Report}
    (h : report.Tells (buildDocument false schema options records)) :
    report.Agrees schema records options where
  succeeds _ := h.text_iff
  warned := by
    rw [h.warnings]
    exact Collector.foldlM_warn {} _
  facts text htext := by
    cases hs : options.settings with
    | error e =>
      unfold buildDocument at htext
      rw [hs] at htext
      cases htext
    | ok s =>
      obtain ⟨m, -⟩ := (buildDocument_ok_iff hs).mp htext
      have houtcome : (buildDocument false schema options records).outcome
          = .ok ⟨m.document.text m.layout, m.index.size, m.relations.length,
              (Linking.resolve m.indexed m.relations).links⟩ := by
        unfold buildDocument
        rw [hs]
        exact Run.outcome_ofSchema false m
      refine ⟨s, m.indexed, m.relations, rfl, m.indexed_ok, m.relations_ok, ?_⟩
      rw [(h.success _ houtcome).2.2, Report.factsOf,
        ← Relation.length_ofSchema m.relations_ok, ← Linking.size_resolve m.indexed m.relations]
      rfl
  fails e he := by
    obtain ⟨herror, htext, hmetadata⟩ := h.failure e (Run.text_error_iff.mp he)
    exact ⟨herror, rfl, htext, hmetadata⟩

/-- **The ways in agree** on a schema, records of its fields, and options. -/
structure WaysAgree (schema records : Value) (options : Options) : Prop where
  /-- A schema from an accessor is built like one at hand: what comes out is the
  same, and so are the warnings, one by one. -/
  types : generateTypes (.gives schema) (.gives records) options
    = buildDocument false schema options records
  /-- Settings can be made out again. -/
  again : ∀ s, options.settings = .ok s → (Options.assigned s.value).settings = .ok s
  /-- The report on a schema from an accessor agrees with its document. -/
  code : (generateCode (.gives schema) (.gives records) options).Agrees schema records options
  /-- Without a schema to call for, the text is empty whatever the options. -/
  withoutSchema : ∀ getSchema : Accessor, getSchema.isCallable = false → ∀ getFields,
    (generateTypes getSchema getFields options).text = .ok ""
      ∧ (generateCode getSchema getFields options).error = none
      ∧ (generateCode getSchema getFields options).text = ""

/-- **All ways in agree**, whatever comes in. -/
theorem ways_in_agree (schema records : Value) (options : Options) :
    WaysAgree schema records options where
  types := generateTypes_gives schema records options
  again s _ := s.settings_assigned
  code := by
    have hrun := buildDocument_noted schema records options true false
    rw [generateCode_gives]
    exact (Report.ofRun_tells hrun.1 hrun.2).agrees
  withoutSchema getSchema hnone getFields := by
    unfold generateTypes generateCode
    rw [hnone]
    exact ⟨rfl, rfl, rfl⟩

end CollectionTypes
