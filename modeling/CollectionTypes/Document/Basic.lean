import CollectionTypes.Document.Layout
import CollectionTypes.Naming.Member

/-!
# Documents

A document imports types, declares a type for each collection, and ends
with the declaration of a type that lists the collections. `Block` is a
declaration: a name, perhaps a type that it extends, and members.
`Document.lines` are the lines of a document, one for the imports, one for
each member, and one each for the beginning and the end of a declaration;
a blank line stands between declarations.
-/

namespace CollectionTypes

/-- **A member of a type.** -/
structure Member where
  name : String
  /-- The type of the member, written out. -/
  type : String
  deriving DecidableEq, Repr, Inhabited

/-- **A declaration of a type.** -/
structure Block where
  typeName : String
  /-- The type that it extends; empty if there is none. -/
  baseType : String := ""
  members : List Member
  deriving DecidableEq, Repr, Inhabited

/-- **A document.** -/
structure Document where
  /-- What is imported, as it is written. -/
  specifiers : List String
  /-- Where it is imported from. -/
  hostModule : String
  blocks : List Block
  /-- The type that lists the collections. -/
  rollup : Block
  deriving DecidableEq, Repr, Inhabited

/-- Texts with a comma between them. -/
def commaSeparated (ss : List String) : List Char :=
  (", ").toList.intercalate (ss.map String.toList)

/-- **The line of the imports.** -/
def importLine (specifiers : List String) (hostModule : String) : Line where
  core := "import \x7b ".toList ++ commaSeparated specifiers ++ " \x7d from '".toList
    ++ hostModule.toList ++ ['\'']
  terminated := true

namespace Member

/-- **The line of a member.** -/
def line (m : Member) : Line where
  indented := true
  core := (Naming.member m.name).toList ++ [':', ' '] ++ m.type.toList
  terminated := true

end Member

namespace Block

/-- The line that a declaration begins with. -/
def opening (b : Block) : Line where
  core := "export type ".toList ++ b.typeName.toList ++ " = ".toList
    ++ (if b.baseType = "" then [] else b.baseType.toList ++ " & ".toList) ++ ['\x7b']

/-- The line that a declaration ends with. -/
def closing : Line where
  core := ['\x7d']
  terminated := true

/-- **The lines of a declaration.** -/
def lines (b : Block) : List Line :=
  b.opening :: b.members.map Member.line ++ [closing]

/-- The text of a declaration. -/
def text (l : Layout) (b : Block) : String :=
  String.ofList (layOut l b.lines)

end Block

/-- The text of the imports. -/
def importText (l : Layout) (specifiers : List String) (hostModule : String) : String :=
  String.ofList ((importLine specifiers hostModule).chars l)

/-- **Texts put together to the text of a document.** -/
def assemble (imports : String) (blocks : List String) (rollup : String) : String :=
  String.ofList (imports.toList ++ '\n' :: blocks.flatMap (fun b => b.toList ++ ['\n'])
    ++ rollup.toList)

namespace Document

/-- **The lines of a document.** -/
def lines (d : Document) : List Line :=
  importLine d.specifiers d.hostModule :: Line.blank
    :: d.blocks.flatMap (fun b => b.lines ++ [Line.blank]) ++ d.rollup.lines

/-- **The text of a document.** -/
def text (l : Layout) (d : Document) : String :=
  assemble (importText l d.specifiers d.hostModule) (d.blocks.map (Block.text l))
    (d.rollup.text l)

theorem layOut_blocks (l : Layout) (bs : List Block) :
    layOut l (bs.flatMap fun b => b.lines ++ [Line.blank])
      = (bs.map (Block.text l)).flatMap fun b => b.toList ++ ['\n'] := by
  induction bs with
  | nil => rfl
  | cons b bs ih =>
    rw [List.flatMap_cons, layOut_append, layOut_append, ih, List.map_cons,
      List.flatMap_cons, Block.text, String.toList_ofList]
    rfl

/-- **The text of a document is its lines laid out.** -/
theorem toList_text (l : Layout) (d : Document) :
    (d.text l).toList = layOut l d.lines := by
  unfold text assemble importText lines
  rw [String.toList_ofList, String.toList_ofList, layOut_append, Block.text,
    String.toList_ofList, ← layOut_blocks]
  rfl

end Document

end CollectionTypes
