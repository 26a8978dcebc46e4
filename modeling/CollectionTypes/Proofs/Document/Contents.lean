import CollectionTypes.Document.OfViews
import CollectionTypes.Proofs.Document.Lines
import CollectionTypes.Proofs.Outcome

/-!
# What a document has to tell

The settings say where a document imports from and what its last declaration
is called. The rest is its `Contents`: what it imports, its declarations, and
the members of the last one. `Contents.rendered` puts them into words by
filling in the parts of a document one after the other, and what comes out is
the text of the document (`Contents.rendered_eq`).
-/

namespace CollectionTypes

open Outcome

/-- **What a document has to tell** apart from what the settings say. -/
structure Contents where
  /-- What is imported, as it is written. -/
  specifiers : List String
  blocks : List Block
  /-- The members of the last declaration. -/
  listed : List Member
  deriving DecidableEq, Repr

/-! ## Values that parts are filled in with -/

/-- A part of a document, filled in. -/
def Template.part (t : Template) (context : Template.Context) : Except DocumentError String :=
  (render (.text t.name) context).mapError .template

/-- A member as a value. -/
def Member.value (m : Member) : Value :=
  .object [("name", .text m.name), ("type", .text m.type)]

/-- What a declaration is filled in with. A type that extends nothing has no
base type. -/
def Block.context (s : Settings) (indent : String) (b : Block) : Template.Context :=
  [("type_name", .text b.typeName),
    ("base_type", if b.baseType = "" then .null else .text b.baseType),
    ("members", .list (b.members.map Member.value)),
    ("indent", .text indent), ("terminator", .text s.terminator)]

namespace Contents

/-- The last declaration. -/
def rollup (s : Settings) (c : Contents) : Block where
  typeName := s.rollupTypeName
  members := c.listed

/-- **The document** that tells it. -/
def document (s : Settings) (c : Contents) : Document :=
  ⟨c.specifiers, s.hostModule, c.blocks, c.rollup s⟩

/-- What the imports are filled in with. -/
def importContext (s : Settings) (c : Contents) : Template.Context :=
  [("names", .list (c.specifiers.map .text)), ("module", .text s.hostModule),
    ("terminator", .text s.terminator)]

/-- **The text that the parts of a document make**, filled in one after the
other. -/
def rendered (s : Settings) (c : Contents) : Except DocumentError String := do
  let indent ← (indentationOf (s.value .spaces) (s.value .useTabs)).mapError .misuse
  let blocks ← c.blocks.mapM fun b => Template.typeBlock.part (b.context s indent)
  let rollup ← Template.typeBlock.part ((c.rollup s).context s indent)
  let imports ← Template.imports.part (c.importContext s)
  Template.document.part
    [("imports", .text imports), ("blocks", .list (blocks.map .text)), ("rollup", .text rollup)]

end Contents

/-! ## Parts filled in -/

namespace Template

theorem part_eq (t : Template) (context : Context) :
    t.part context = (t.fill context).mapError fun m => .template (.failed (.text t.name) m) := by
  unfold part render
  dsimp only
  rw [ofName?_name]
  dsimp only
  cases t.fill context <;> rfl

theorem memberOf_value (m : Member) : memberOf m.value = .ok m := rfl

theorem mapM_memberOf (ms : List Member) : (ms.map Member.value).mapM memberOf = .ok ms := by
  rw [mapM_ok_iff, List.forall₂_map_left_iff, List.forall₂_same]
  exact fun m _ => memberOf_value m

theorem map_shown_text (ss : List String) : (ss.map Value.text).map Value.shown = ss := by
  rw [List.map_map]
  exact List.map_id' ss

end Template

namespace Settings

variable {s : Settings} {l : Layout}

/-- The indentation of a layout, as it is made from loosely typed values. -/
theorem indentationOf_value (h : s.layout = .ok l) :
    indentationOf (s.value .spaces) (s.value .useTabs) = .ok (String.ofList l.indentation) := by
  unfold layout at h
  unfold indentationOf
  show (if s.useTabs = true then _ else _) = _
  split at h
  · next htabs =>
    rw [if_pos htabs, ← Except.ok.inj h]
  · next htabs =>
    obtain ⟨indentation, hblanks, rfl⟩ := map_ok_iff.mp h
    have hnonneg : ¬ (s.spaces : Int) < -(Text.countLimit : Int) := by omega
    rw [if_neg htabs]
    show (if (s.spaces : Int) < -(Text.countLimit : Int) then _
      else (blanks (s.spaces : Int).toNat).map String.ofList) = _
    rw [if_neg hnonneg, Int.toNat_natCast, hblanks]
    rfl

end Settings

section Parts

variable {s : Settings} {l : Layout}

/-- **A declaration filled in** is its text. -/
theorem Block.part_eq (h : s.layout = .ok l) (b : Block) :
    Template.typeBlock.part (b.context s (String.ofList l.indentation)) = .ok (b.text l) := by
  have hlayout : Template.layoutOf (b.context s (String.ofList l.indentation)) = l := by
    have hindent : (String.ofList l.indentation).toList = l.indentation := String.toList_ofList
    have hterminator : l.terminator = s.terminator.toList := by
      rw [Settings.layout_eq_shape h]
      rfl
    show Layout.mk (String.ofList l.indentation).toList s.terminator.toList = l
    rw [hindent, ← hterminator]
  have hmembers : Template.elementsUnder (b.context s (String.ofList l.indentation)) "members"
      = .ok (b.members.map Member.value) := rfl
  have hbase : (if Template.present (b.context s (String.ofList l.indentation)) "base_type" = true
      then Template.shownUnder (b.context s (String.ofList l.indentation)) "base_type" else "")
      = b.baseType := by
    show (if (if b.baseType = "" then Value.null else .text b.baseType).truthy = true
      then (if b.baseType = "" then Value.null else .text b.baseType).shown else "") = b.baseType
    by_cases hempty : b.baseType = ""
    · rw [hempty]
      rfl
    · rw [if_neg hempty, Value.truthy_text, if_pos (bne_iff_ne.mpr hempty)]
      rfl
  rw [Template.part_eq, mapError_ok_iff, Template.fill, hmembers, hlayout]
  show (do
    let members ← (b.members.map Member.value).mapM Template.memberOf
    return Block.text l ⟨b.typeName, _, members⟩ : Except Misuse String) = _
  rw [Template.mapM_memberOf, hbase]
  rfl

theorem Contents.importPart_eq (h : s.layout = .ok l) (c : Contents) :
    Template.imports.part (c.importContext s) = .ok (importText l c.specifiers s.hostModule) := by
  have htext : importText (Template.layoutOf (c.importContext s)) c.specifiers s.hostModule
      = importText l c.specifiers s.hostModule := by
    unfold importText Line.chars
    show String.ofList (_ ++ _ ++ s.terminator.toList ++ _)
      = String.ofList (_ ++ _ ++ l.terminator ++ _)
    rw [Settings.layout_eq_shape h]
    rfl
  rw [Template.part_eq, mapError_ok_iff, Template.fill]
  show Except.ok (importText (Template.layoutOf (c.importContext s))
    ((c.specifiers.map Value.text).map Value.shown) s.hostModule) = _
  rw [Template.map_shown_text, htext]

/-- **The parts make the text of the document.** -/
theorem Contents.rendered_eq (h : s.layout = .ok l) (c : Contents) :
    c.rendered s = .ok ((c.document s).text l) := by
  have hblocks : (c.blocks.mapM fun b =>
      Template.typeBlock.part (b.context s (String.ofList l.indentation)))
      = .ok (c.blocks.map (Block.text l)) := by
    rw [mapM_ok_iff, List.forall₂_map_right_iff, List.forall₂_same]
    exact fun b _ => b.part_eq h
  unfold rendered
  rw [Settings.indentationOf_value h]
  refine bind_ok_iff.mpr ⟨String.ofList l.indentation, rfl, ?_⟩
  refine bind_ok_iff.mpr ⟨_, hblocks, bind_ok_iff.mpr ⟨_, (c.rollup s).part_eq h, ?_⟩⟩
  refine bind_ok_iff.mpr ⟨_, c.importPart_eq h, ?_⟩
  rw [Template.part_eq, mapError_ok_iff, Template.fill]
  show Except.ok (assemble (importText l c.specifiers s.hostModule)
    (((c.blocks.map (Block.text l)).map Value.text).map Value.shown) ((c.rollup s).text l)) = _
  rw [Template.map_shown_text]
  rfl

end Parts

end CollectionTypes
