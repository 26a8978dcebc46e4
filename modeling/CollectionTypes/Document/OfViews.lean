import CollectionTypes.Document.Imports
import CollectionTypes.Document.MemberType
import CollectionTypes.Document.Template
import CollectionTypes.Document.View

/-!
# The document of an index

Each view becomes a declaration, in the order of the names of the
collections, and the declaration of the type that lists the collections
comes last. What the declarations mention of the host's own types is
imported, besides the type of the primary keys.

`Document.ofIndex` makes the document. The layout has to be possible even
where nothing is indented, and a member has to be named by a text.
-/

namespace CollectionTypes

/-- **Why there is no document.** -/
inductive DocumentError where
  | misuse (m : Misuse)
  | template (e : TemplateError)

/-- The wording of the error. -/
def DocumentError.message : DocumentError → String
  | misuse m => m.message
  | template e => e.message

namespace View

/-- The types of the members of a view. -/
def memberTypes (s : Settings) (v : View) : Except Misuse (List (Field × MemberType)) :=
  v.fields.mapM fun f => do return (f, ← f.memberType s v.collection.primary)

/-- A member with its type written out. -/
def member (e : Field × MemberType) : Except DocumentError Member :=
  match e.1.name with
  | .text name => .ok ⟨name, e.2.expr.text⟩
  | name => .error (.template (.failed (.text Template.typeBlock.name) (.notText name.kind)))

/-- **The imports with what a view mentions of the host.** -/
def addImports (t : Imports) (v : View) (types : List (Field × MemberType)) : Imports :=
  let t := types.foldl (fun t e => e.2.host.elim t t.add) t
  match v.base with
  | some e => t.add e.hostType (some e.localName)
  | none => t

/-- **The declaration of a view.** -/
def block (s : Settings) (v : View) (types : List (Field × MemberType)) :
    Except DocumentError Block := do
  -- the layout has to be possible even if there is no member to indent
  let _ ← s.layout.mapError .misuse
  let members ← types.mapM member
  return ⟨v.typeName, (v.base.map Extension.localName).getD "", members⟩

/-- The member that lists the items of a view's collection. -/
def rollupMember (v : View) : Member where
  name := v.identifier
  type := if v.collection.singleton then v.typeName else v.typeName ++ "[]"

end View

namespace Document

/-- The declarations of views, one after the other, and the imports that
they make. -/
def blocksFrom (s : Settings) (t : Imports) :
    List View → Except DocumentError (Imports × List Block)
  | [] => .ok (t, [])
  | v :: rest => do
    let types ← (v.memberTypes s).mapError .misuse
    let b ← v.block s types
    let (t, bs) ← blocksFrom s (v.addImports t types) rest
    return (t, b :: bs)

/-- The type that lists the collections. -/
def rollupOf (s : Settings) (views : List View) : Block where
  typeName := s.rollupTypeName
  members := views.map View.rollupMember

/-- **The document of views** in order, and how many names it imports. -/
def ofViews (s : Settings) (views : List View) : Except DocumentError (Document × Nat) := do
  let (t, blocks) ← blocksFrom s (Imports.ofNames [s.primaryKeyType]) views
  return (⟨t.specifiers, s.hostModule, blocks, rollupOf s views⟩, t.size)

/-- **The document of an index.** -/
def ofIndex (s : Settings) (ix : Index) : Traced DocumentError (Document × Layout) := do
  let views ← (View.ofIndex s ix).mapError .misuse
  let (d, imported) ← ofViews s (View.arranged views)
  let layout ← Traced.silent (s.layout.mapError DocumentError.misuse)
  Traced.note .debug
    ("Rendered " ++ toString d.blocks.length ++ " type blocks, " ++ toString imported
      ++ " host imports")
  return (d, layout)

/-- **The text of the document of an index.** -/
def textOfIndex (s : Settings) (ix : Index) : Traced DocumentError String := do
  let (d, layout) ← ofIndex s ix
  return d.text layout

end Document

end CollectionTypes
