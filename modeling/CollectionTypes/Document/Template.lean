import CollectionTypes.Document.Basic
import CollectionTypes.Naming.TypeName
import CollectionTypes.Value.Shown

/-!
# Filling in the parts of a document

A document is put together from three parts: the imports, the
declarations, and the whole. `Template.fill` makes a part from loosely
typed values under names. A name that is not given is written as nothing
and has no elements; a member has to be named by a text.
-/

namespace CollectionTypes

/-- **A part of a document.** -/
inductive Template where
  | imports
  | typeBlock
  | document
  deriving DecidableEq, Repr

namespace Template

/-- The name of a part. -/
def name : Template → String
  | imports => "import"
  | typeBlock => "type_block"
  | document => "document"

/-- The part of a name. -/
def ofName? (s : String) : Option Template :=
  [imports, typeBlock, document].find? fun t => t.name == s

end Template

/-- **Why a part of a document cannot be made.** -/
inductive TemplateError where
  /-- No part is called that. -/
  | notFound (name : Value)
  /-- A value makes no sense in the part of that name. -/
  | failed (name : Value) (m : Misuse)

/-- The wording of the error. -/
def TemplateError.message : TemplateError → String
  | notFound name => "Template not found: " ++ name.shown
  | failed name m => "Failed to render template " ++ name.shown ++ ": " ++ m.message

namespace Template

/-- Values under names. -/
abbrev Context := List (String × Value)

/-- The value under a name in running text. -/
def shownUnder (context : Context) (name : String) : String :=
  ((Table.lookup name context).map Value.shown).getD ""

/-- The elements of the value under a name. -/
def elementsUnder (context : Context) (name : String) : Except Misuse (List Value) :=
  match Table.lookup name context with
  | some v => v.elements
  | none => .ok []

/-- Whether the value under a name is present. -/
def present (context : Context) (name : String) : Bool :=
  ((Table.lookup name context).map Value.truthy).getD false

/-- A member from a loosely typed value. -/
def memberOf (v : Value) : Except Misuse Member :=
  let parts := v.members?.getD []
  match Table.lookup "name" parts with
  | some (.text name) => .ok ⟨name, shownUnder parts "type"⟩
  | some other => .error (.notText other.kind)
  | none => .error (.notText .undefined)

/-- The layout under its names. -/
def layoutOf (context : Context) : Layout where
  indentation := (shownUnder context "indent").toList
  terminator := (shownUnder context "terminator").toList

/-- **A part of a document, filled in.** -/
def fill (context : Context) : Template → Except Misuse String
  | imports => do
    let names ← elementsUnder context "names"
    return importText (layoutOf context) (names.map Value.shown)
      (shownUnder context "module")
  | typeBlock => do
    let members ← (← elementsUnder context "members").mapM memberOf
    let baseType :=
      if present context "base_type" then shownUnder context "base_type" else ""
    return Block.text (layoutOf context)
      ⟨shownUnder context "type_name", baseType, members⟩
  | document => do
    let blocks ← elementsUnder context "blocks"
    return assemble (shownUnder context "imports") (blocks.map Value.shown)
      (shownUnder context "rollup")

/-- **The part of a loosely typed name, filled in.** -/
def render (name : Value) (context : Context) : Except TemplateError String :=
  match name with
  | .text s =>
    match ofName? s with
    | some t => (t.fill context).mapError (.failed name)
    | none => .error (.notFound name)
  | .list _ | .object _ => .error (.failed name (.notName name.kind))
  | _ => .error (.notFound name)

@[simp] theorem ofName?_name (t : Template) : ofName? t.name = some t := by
  cases t <;> decide

end Template

end CollectionTypes
