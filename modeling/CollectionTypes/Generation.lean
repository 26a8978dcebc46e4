import CollectionTypes.Document.OfViews
import CollectionTypes.Schema.Linking

/-!
# From a schema to a document

A schema is indexed, its relations are linked, and its document is made:
`Run.ofSchema` does this and keeps the warnings about relations apart from
the journal. A schema and the records about its fields may also come from
an `Accessor`, which gives a value when called, or fails in a way of its
own.

There are three ways in. `buildDocument` takes a schema that is at hand,
`generateTypes` calls accessors, and `generateCode` turns every failure
into a `Report`.
-/

namespace CollectionTypes

/-- **A failure of an accessor's own**: the class of the failure, and what
it says. -/
structure Raised where
  className : String
  args : List Value

namespace Raised

/-- What is said in running text: nothing, the one thing, or all things in
parentheses. -/
def argsText : List Value → String
  | [] => ""
  | [v] => v.shown
  | vs => "(" ++ ", ".intercalate (vs.map Value.quoted) ++ ")"

/-- The wording of a failure. A missing key is quoted. -/
def message (r : Raised) : String :=
  match r.className, r.args with
  | "KeyError", [v] => v.quoted
  | _, args => argsText args

/-- The failure as it leaves a call: the end of an iteration is no failure
that may leave one. -/
def leavingCall (r : Raised) : Raised :=
  if r.className = "StopIteration" then
    ⟨"RuntimeError", [.text "coroutine raised StopIteration"]⟩
  else r

end Raised

/-- **Where a value comes from.** -/
inductive Accessor where
  /-- From nowhere. -/
  | absent
  /-- There is something, but it cannot be called. -/
  | notCallable
  /-- A call gives a value. -/
  | gives (v : Value)
  /-- A call fails. -/
  | fails (r : Raised)

namespace Accessor

/-- Whether there is something to call. -/
def isCallable : Accessor → Bool
  | absent => false
  | notCallable => false
  | gives _ => true
  | fails _ => true

/-- **What a call gives**; nothing where there is nothing to call. -/
def call : Accessor → Except Raised Value
  | gives v => .ok v
  | fails r => .error r.leavingCall
  | _ => .ok .null

end Accessor

/-- **Why nothing was generated.** -/
inductive GenerationError where
  | settings (e : SettingsError)
  | document (e : DocumentError)
  | raised (r : Raised)

/-- The wording of the error. -/
def GenerationError.message : GenerationError → String
  | settings e => e.message
  | document e => e.message
  | raised r => r.message

/-- A value out of place, as a reason why nothing was generated. -/
def GenerationError.ofMisuse (m : Misuse) : GenerationError :=
  document (.misuse m)

/-- **What was generated**, and what went into it. -/
structure Generated where
  text : String
  /-- How many collections were indexed. -/
  collections : Nat
  /-- How many relations there are. -/
  relations : Nat
  /-- How many links they put on fields. -/
  links : Nat

/-- **One run**, whether it ends well or not. -/
structure Run where
  /-- The warnings about relations. -/
  warnings : List String
  /-- Everything else that was written down. -/
  journal : List Entry
  outcome : Except GenerationError Generated

namespace Run

/-- A run that came to nothing before it began. -/
def failed (e : GenerationError) : Run := ⟨[], [], .error e⟩

/-- Warnings as entries of a journal. -/
def warningEntries (warnings : List String) : List Entry :=
  warnings.map fun text => ⟨.warning, text⟩

/-- The index of a schema, with what the records say about its fields. -/
def index (s : Settings) (schema fieldRecords : Value) : Traced Misuse Index := do
  let flags ← Flags.ofRecords fieldRecords
  Index.ofSchema (.text s.systemPrefix) flags schema

/-- The run from linked relations on. -/
def ofLinking (s : Settings) (journal : List Entry) (relations : Nat) (w : Linking) : Run :=
  match w.fault with
  | some m => ⟨w.warnings, journal, .error (.ofMisuse m)⟩
  | none =>
    let d := (Document.textOfIndex s w.index).mapError .document
    ⟨w.warnings, journal ++ w.closing ++ d.journal,
      d.outcome.map fun text => ⟨text, w.index.size, relations, w.links⟩⟩

/-- **The run of a schema.** If `noted`, the warnings about relations go
into the journal as well. -/
def ofSchema (noted : Bool) (s : Settings) (schema fieldRecords : Value) : Run :=
  let indexed := index s schema fieldRecords
  match indexed.outcome with
  | .error m => ⟨[], indexed.journal, .error (.ofMisuse m)⟩
  | .ok ix =>
    match Relation.ofSchema schema with
    | .error m => ⟨[], indexed.journal, .error (.ofMisuse m)⟩
    | .ok relations =>
      let w := Linking.resolve ix relations
      let noted := if noted then warningEntries w.warnings else []
      ofLinking s (indexed.journal ++ noted) relations.length w

/-- The text that came out. -/
def text (r : Run) : Except GenerationError String :=
  r.outcome.map Generated.text

end Run

/-- The run with options that still have to be made out. -/
def buildDocument (noted : Bool) (schema : Value) (options : Options)
    (fieldRecords : Value) : Run :=
  match options.settings with
  | .error e => .failed (.settings e)
  | .ok s => .ofSchema noted s schema fieldRecords

/-- The schema, and the records about its fields, that accessors give. -/
def fetch (getSchema getFields : Accessor) : Except Raised (Value × Value) := do
  let schema ← getSchema.call
  let records ← getFields.call
  return (schema, records)

/-- **The run with a schema from an accessor.** The options are made out
before anything is called. -/
def fetchAndRun (run : Settings → Value → Value → Run) (getSchema getFields : Accessor)
    (options : Options) : Run :=
  match options.settings with
  | .error e => .failed (.settings e)
  | .ok s =>
    match fetch getSchema getFields with
    | .error r => .failed (.raised r)
    | .ok (schema, records) => run s schema records

/-- The run with settings that are taken for options, and made out once
more. -/
def buildAgain (s : Settings) (schema records : Value) : Run :=
  buildDocument false schema (.assigned s.value) records

/-- **The document of a schema from an accessor**; without one, an empty
text. -/
def generateTypes (getSchema getFields : Accessor) (options : Options) : Run :=
  if getSchema.isCallable then fetchAndRun buildAgain getSchema getFields options
  else ⟨[], [], .ok ⟨"", 0, 0, 0⟩⟩

/-- **What there is to tell about a run.** -/
structure Report where
  text : String
  warnings : List String
  /-- Facts about what was generated, each under its name. -/
  metadata : List (String × Value)
  /-- Why nothing was generated. -/
  error : Option GenerationError
  journal : List Entry

namespace Report

/-- The facts about what was generated. -/
def factsOf (g : Generated) : List (String × Value) :=
  [("language", .text "typescript"), ("file_extension", .text ".ts"),
    ("collection_count", .int g.collections), ("relation_count", .int g.relations),
    ("relation_links", .int g.links)]

/-- The entry about a failure. -/
def failureEntry (e : GenerationError) : Entry :=
  ⟨.error, "Type generation failed: " ++ e.message⟩

/-- The report of a run. -/
def ofRun (r : Run) : Report :=
  match r.outcome with
  | .ok g => ⟨g.text, r.warnings, factsOf g, none, r.journal⟩
  | .error e => ⟨"", r.warnings, [], some e, r.journal ++ [failureEntry e]⟩

/-- The report when there is no schema to be had. -/
def withoutSchema : Report :=
  ⟨"", [], [("collection_count", .int 0)], none, []⟩

/-- What a report says about a failure. -/
def failureText (e : GenerationError) : String :=
  "Code generation failed: " ++ e.message

end Report

/-- **The report on a schema from an accessor.** -/
def generateCode (getSchema getFields : Accessor) (options : Options) : Report :=
  if getSchema.isCallable then
    .ofRun (fetchAndRun (Run.ofSchema true) getSchema getFields options)
  else .withoutSchema

end CollectionTypes
