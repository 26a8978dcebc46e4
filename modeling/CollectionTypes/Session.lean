import CollectionTypes.Generation

/-!
# A session with an index

A `Session` keeps settings and an index, and lets both be changed bit by
bit: a schema can be indexed or merged in, relations can be linked, single
fields and collections can be altered or dropped, and the document of what
is there can be made at any time.

A step that fails may have changed something before it failed, and what
it changed stays. Each step therefore gives the session that it leaves
besides what came out.
-/

namespace CollectionTypes

/-- **Why a step of a session fails.** -/
inductive SessionError where
  | settings (e : SettingsError)
  | document (e : DocumentError)
  | direction (e : BadDirection)
  /-- Nothing is called that. -/
  | missing (name : Value)

/-- The wording of the error. -/
def SessionError.message : SessionError → String
  | settings e => e.message
  | document e => e.message
  | direction e => e.message
  | missing name => name.quoted

/-- A value out of place, as an error of a session. -/
def SessionError.ofMisuse (m : Misuse) : SessionError :=
  document (.misuse m)

/-- **Settings and an index.** -/
structure Session where
  settings : Settings := {}
  index : Index := Table.empty

/-- What a step leaves behind and what came out. -/
abbrev Step (α : Type) := Session × Traced SessionError α

namespace Session

/-- A step that changes the session if all goes well. -/
def changing {α : Type} (s : Session) (x : Traced SessionError α) (f : α → Session) :
    Step α :=
  match x.outcome with
  | .ok a => (f a, x)
  | .error _ => (s, x)

/-- The index of a schema under the session's settings. -/
def indexOf (s : Session) (schema fieldRecords : Value) : Traced SessionError Index :=
  (Run.index s.settings schema fieldRecords).mapError .ofMisuse

/-- New settings. -/
def configure (s : Session) (options : Options) : Step Settings :=
  s.changing (.silent (options.settings.mapError .settings))
    fun settings => { s with settings }

/-- **A new index.** -/
def reindex (s : Session) (schema fieldRecords : Value) : Step Index :=
  s.changing (s.indexOf schema fieldRecords) fun index => { s with index }

/-- **The index with the collections of another schema.** -/
def merge (s : Session) (schema fieldRecords : Value) : Step Index :=
  s.changing (do return s.index.merge (← s.indexOf schema fieldRecords))
    fun index => { s with index }

/-- Relations linked: how many links, and the warnings. -/
def resolve (s : Session) (schema : Value) : Step (Nat × List String) :=
  match Relation.ofSchema schema with
  | .error m => (s, .silent (.error (.ofMisuse m)))
  | .ok relations =>
    let w := Linking.resolve s.index relations
    ({ s with index := w.index },
      match w.fault with
      | some m => .silent (.error (.ofMisuse m))
      | none => ⟨w.closing, .ok (w.links, w.warnings)⟩)

/-- The collection under a loosely typed name. -/
def collection (s : Session) (name : Value) : Except SessionError (Key × Collection) := do
  let key := (← (Name.ofValue name).mapError SessionError.ofMisuse).key
  match s.index.find? key with
  | some c => return (key, c)
  | none => .error (.missing name)

/-- The field under a loosely typed name. -/
def fieldPlace (s : Session) (collection field : Value) :
    Except SessionError (FieldPlace × Field) := do
  let (key, c) ← s.collection collection
  let fieldKey := (← (Name.ofValue field).mapError SessionError.ofMisuse).key
  match c.fields.find? fieldKey with
  | some f => return ((key, fieldKey), f)
  | none => .error (.missing field)

/-- **One change to a field.** -/
inductive FieldChange where
  | nullable (v : Value)
  | system (v : Value)
  | type (tag : Value)
  | relation (v : Value)

/-- A field with a change. -/
def FieldChange.apply (f : Field) : FieldChange → Except SessionError Field
  | nullable v => .ok { f with nullable := v.truthy }
  | system v => .ok { f with system := v.truthy }
  | type tag => do
    return { f with type := ← (FieldType.ofTag tag).mapError SessionError.ofMisuse }
  | relation (.object ms) => do
    return { f with relation := some (← (Link.ofMembers ms).mapError .direction) }
  | relation _ => .ok { f with relation := none }

/-- A field with changes, up to one that fails, and the failure. -/
def applyChanges (f : Field) : List FieldChange → Field × Option SessionError
  | [] => (f, none)
  | c :: rest =>
    match c.apply f with
    | .ok f => applyChanges f rest
    | .error e => (f, some e)

/-- **A field changed.** Changes before one that fails stay. -/
def setField (s : Session) (collection field : Value) (changes : List FieldChange) :
    Step Field :=
  match s.fieldPlace collection field with
  | .error e => (s, .silent (.error e))
  | .ok (place, f) =>
    let (f, failure) := applyChanges f changes
    ({ s with index := s.index.modifyField place fun _ => f },
      .silent (match failure with
        | some e => .error e
        | none => .ok f))

/-- A collection changed. -/
def setCollection (s : Session) (name : Value) (f : Collection → Collection) :
    Step Collection :=
  match s.collection name with
  | .error e => (s, .silent (.error e))
  | .ok (key, c) =>
    ({ s with index := s.index.modify key f }, .silent (.ok (f c)))

/-- A collection dropped: what is left. -/
def drop (s : Session) (name : Value) : Step Index :=
  s.changing (.silent (do
      let (key, _) ← s.collection name
      return s.index.erase key))
    fun index => { s with index }

/-- A field dropped: what is left of its collection. -/
def dropField (s : Session) (collection field : Value) : Step Collection :=
  match s.fieldPlace collection field with
  | .error e => (s, .silent (.error e))
  | .ok (place, _) =>
    s.setCollection collection fun c => c.withFields fun t => t.erase place.2

/-- The field under a name, if there is one. -/
def getField (s : Session) (collection field : Value) : Step (Option Field) :=
  (s, .silent (do
    let (_, c) ← s.collection collection
    (c.field? field).mapError .ofMisuse))

/-- What a document says about the collections. -/
def views (s : Session) : Step (List View) :=
  (s, (View.ofIndex s.settings s.index).mapError .ofMisuse)

/-- **The document of what is there.** -/
def generate (s : Session) : Step String :=
  (s, (Document.textOfIndex s.settings s.index).mapError .document)

end Session

end CollectionTypes
