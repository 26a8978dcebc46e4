import CollectionTypes.Proofs.Document.Relaid
import CollectionTypes.Proofs.Generation.Making

/-!
# Settings of one wording

Four settings have a say in what a document says: its `Wording`. The others
have a say in its layout, or in where it goes. Stage by stage, settings of one
wording give the same: the same index, the same views with the same types, and,
where a layout is possible, the same declarations. So a document that comes
about under some settings comes about under all others of its wording whose
layout is possible (`Making.relaid`), and settings that share their layout as
well share the whole run (`Run.ofSchema_congr`).

`formatting_changes_layout_only` puts this in terms of texts: all texts of one
schema in one wording are the lines of one document, laid out.
-/

namespace CollectionTypes

open Outcome

/-- **The settings that have a say in what a document says.** -/
structure Wording where
  hostModule : String
  primaryKeyType : String
  rollupTypeName : String
  systemPrefix : String
  deriving DecidableEq, Repr

/-- The wording of settings. -/
def Settings.wording (s : Settings) : Wording :=
  ⟨s.hostModule, s.primaryKeyType, s.rollupTypeName, s.systemPrefix⟩

section Stages

variable {s s' : Settings} (h : s.wording = s'.wording)

include h

namespace Wording

theorem systemPrefix_congr : s.systemPrefix = s'.systemPrefix :=
  congrArg Wording.systemPrefix h

theorem primaryKeyType_congr : s.primaryKeyType = s'.primaryKeyType :=
  congrArg Wording.primaryKeyType h

theorem rollupTypeName_congr : s.rollupTypeName = s'.rollupTypeName :=
  congrArg Wording.rollupTypeName h

theorem hostModule_congr : s.hostModule = s'.hostModule :=
  congrArg Wording.hostModule h

end Wording

/-! ## Stages under settings of one wording -/

theorem Run.index_congr (schema records : Value) :
    Run.index s schema records = Run.index s' schema records := by
  unfold Run.index
  rw [Wording.systemPrefix_congr h]

theorem Link.memberType_congr (l : Link) : l.memberType s = l.memberType s' := by
  unfold memberType reference target
  rw [Wording.systemPrefix_congr h]

theorem Field.memberType_congr (primary : Value) (f : Field) :
    f.memberType s primary = f.memberType s' primary := by
  unfold memberType MemberType.ofParts MemberType.key
  rw [Wording.primaryKeyType_congr h]
  simp only [Link.memberType_congr h]

namespace View

theorem ofCollection?_congr (c : Collection) : ofCollection? s c = ofCollection? s' c := by
  unfold ofCollection?
  rw [Wording.systemPrefix_congr h]

theorem ofCollections_congr (cs : List Collection) :
    ofCollections s cs = ofCollections s' cs := by
  induction cs with
  | nil => rfl
  | cons c cs ih =>
    rw [ofCollections, ofCollections, ofCollection?_congr h, ih]

theorem ofIndex_congr (ix : Index) : ofIndex s ix = ofIndex s' ix := by
  unfold ofIndex
  rw [ofCollections_congr h]

theorem memberTypes_congr (v : View) : v.memberTypes s = v.memberTypes s' := by
  unfold memberTypes
  simp only [Field.memberType_congr h]

theorem typed_congr (v : View) : typed s v = typed s' v := by
  unfold typed
  rw [memberTypes_congr h]

theorem documentOf_congr (es : List Typed) (bs : List Block) :
    documentOf s es bs = documentOf s' es bs := by
  unfold documentOf Document.rollupOf
  rw [Wording.primaryKeyType_congr h, Wording.hostModule_congr h,
    Wording.rollupTypeName_congr h]

end View

/-! ## Runs under settings of one wording -/

namespace Making

variable {schema records : Value}

/-- **The making under other settings** of the same wording, if their layout is
possible. -/
def relaid (m : Making s schema records) {l : Layout} (hl : s'.layout = .ok l) :
    Making s' schema records where
  indexed := m.indexed
  relations := m.relations
  views := m.views
  typed := m.typed
  blocks := m.blocks
  layout := l
  indexed_ok := Run.index_congr h schema records ▸ m.indexed_ok
  relations_ok := m.relations_ok
  linked_ok := m.linked_ok
  views_ok := View.ofIndex_congr h _ ▸ m.views_ok
  typed_ok := by
    have htyped : View.typed s = View.typed s' := funext (View.typed_congr h)
    exact htyped ▸ m.typed_ok
  blocks_ok := by
    refine mapM_ok_iff.mpr ((mapM_ok_iff.mp m.blocks_ok).imp fun e b hb => ?_)
    obtain ⟨-, hrest⟩ := View.declared_ok_iff.mp hb
    exact View.declared_ok_iff.mpr ⟨⟨l, hl⟩, hrest⟩
  layout_ok := hl

/-- **The document stays the same.** -/
theorem document_relaid (m : Making s schema records) {l : Layout} (hl : s'.layout = .ok l) :
    (m.relaid h hl).document = m.document :=
  (View.documentOf_congr h m.typed m.blocks).symm

end Making

section Layout

variable (hl : s.layout = s'.layout)

include hl

omit h in
theorem View.block_congr (v : View) (types : List (Field × MemberType)) :
    v.block s types = v.block s' types := by
  unfold block
  rw [hl]

theorem Document.blocksFrom_congr (t : Imports) (vs : List View) :
    blocksFrom s t vs = blocksFrom s' t vs := by
  induction vs generalizing t with
  | nil => rfl
  | cons v vs ih =>
    rw [blocksFrom, blocksFrom, View.memberTypes_congr h]
    simp only [View.block_congr hl, ih]

theorem Document.textOfIndex_congr (ix : Index) : textOfIndex s ix = textOfIndex s' ix := by
  unfold textOfIndex ofIndex ofViews rollupOf
  rw [View.ofIndex_congr h, hl, Wording.primaryKeyType_congr h, Wording.hostModule_congr h,
    Wording.rollupTypeName_congr h]
  simp only [blocksFrom_congr h hl]

/-- **Settings of one wording and one layout** share the whole run. -/
theorem Run.ofSchema_congr (noted : Bool) (schema records : Value) :
    Run.ofSchema noted s schema records = Run.ofSchema noted s' schema records := by
  unfold ofSchema ofLinking
  rw [Run.index_congr h]
  simp only [Document.textOfIndex_congr h hl]

end Layout

/-- Makings of one wording make one document. -/
theorem Making.document_congr {schema records : Value} (m : Making s schema records)
    (m' : Making s' schema records) : m'.document = m.document := by
  rw [Subsingleton.elim m' (m.relaid h m'.layout_ok), m.document_relaid h]

end Stages

/-! ## Texts in one wording -/

namespace Settings

variable {s s' : Settings}

theorem layout_of_useTabs (h : s.useTabs = true) : s.layout = .ok s.shape := by
  unfold layout shape
  rw [if_pos h, if_pos h]

theorem shape_terminator_congr (h : s.trailingSemicolons = s'.trailingSemicolons) :
    s.shape.terminator = s'.shape.terminator := by
  unfold shape terminator
  rw [h]

end Settings

/-- **A document underlies all texts of a schema** in a wording. -/
structure Document.Underlies (schema records : Value) (w : Wording) (d : Document) : Prop where
  /-- A text is the lines of the document, each with its indentation and its
  terminator. -/
  laidOut : ∀ {noted : Bool} {options : Options} {s : Settings} {text : String},
    options.settings = .ok s → s.wording = w →
      (buildDocument noted schema options records).text = .ok text →
        text.toList = layOut s.shape d.lines
  /-- Terminated are the line of the imports, those of the members, and those
  that close a declaration. -/
  terminated : ∀ line ∈ d.lines, line.terminated = true
    ↔ line = importLine d.specifiers d.hostModule
      ∨ (∃ b ∈ d.declarations, ∃ m ∈ b.members, line = m.line) ∨ line = Block.closing
  /-- Indented are the lines of the members. -/
  indented : ∀ line ∈ d.lines, line.indented = true
    ↔ ∃ b ∈ d.declarations, ∃ m ∈ b.members, line = m.line
  /-- If nothing that is printed breaks a line, the text with tabs is the text
  with spaces, with a tab in place of the spaces behind every line feed. -/
  tabs : d.Unbroken → ∀ {noted : Bool} {options options' : Options} {s s' : Settings}
    {text : String}, options.settings = .ok s → options'.settings = .ok s' →
      s.wording = w → s'.wording = w → s.trailingSemicolons = s'.trailingSemicolons →
        s.useTabs = false → s'.useTabs = true →
          (buildDocument noted schema options records).text = .ok text →
            (buildDocument noted schema options' records).text = .ok (String.ofList
              (Text.replaceAll ('\n' :: List.replicate s.spaces ' ') ['\n', '\t'] text.toList))
  /-- With tabs, the width of an indentation has no effect at all. -/
  width : ∀ {options options' : Options} {s s' : Settings},
    options.settings = .ok s → options'.settings = .ok s' →
      s.wording = w → s'.wording = w → s.trailingSemicolons = s'.trailingSemicolons →
        s.useTabs = true → s'.useTabs = true → ∀ noted : Bool,
          buildDocument noted schema options records = buildDocument noted schema options' records

section Texts

variable {schema records : Value} {w : Wording}

/-- With tabs, settings of one wording share the whole run. -/
theorem buildDocument_congr_of_tabs {options options' : Options} {s s' : Settings}
    (hs : options.settings = .ok s) (hs' : options'.settings = .ok s')
    (hw : s.wording = s'.wording) (hsemicolons : s.trailingSemicolons = s'.trailingSemicolons)
    (htabs : s.useTabs = true) (htabs' : s'.useTabs = true) (noted : Bool)
    (schema records : Value) :
    buildDocument noted schema options records = buildDocument noted schema options' records := by
  have hshape : s.shape = s'.shape := by
    unfold Settings.shape Settings.terminator
    rw [htabs, htabs', hsemicolons]
    rfl
  have hlayout : s.layout = s'.layout := by
    rw [Settings.layout_of_useTabs htabs, Settings.layout_of_useTabs htabs', hshape]
  unfold buildDocument
  rw [hs, hs']
  exact Run.ofSchema_congr hw hlayout noted schema records

/-- The document of a making underlies all texts in its wording. -/
theorem Making.underlies {s₀ : Settings} (m₀ : Making s₀ schema records)
    (hw₀ : s₀.wording = w) : m₀.document.Underlies schema records w := by
  have hlaidOut : ∀ {s : Settings} (m : Making s schema records), s.wording = w →
      (m.document.text m.layout).toList = layOut s.shape m₀.document.lines := by
    intro s m hw
    rw [Document.toList_text, m₀.document_congr (hw₀.trans hw.symm) m,
      Settings.layout_eq_shape m.layout_ok]
  constructor
  case laidOut =>
    intro noted options s text hs hw htext
    obtain ⟨m, rfl⟩ := (buildDocument_ok_iff hs).mp htext
    exact hlaidOut m hw
  case terminated => exact fun line hline => Document.terminated_iff hline
  case indented => exact fun line hline => Document.indented_iff hline
  case tabs =>
    intro hunbroken noted options options' s s' text hs hs' hw hw' hsemicolons hspaces htabs htext
    obtain ⟨m, rfl⟩ := (buildDocument_ok_iff hs).mp htext
    have hlayout := Settings.layout_of_useTabs htabs
    refine (buildDocument_ok_iff hs').mpr ⟨m.relaid (hw.trans hw'.symm) hlayout, ?_⟩
    have hindentation : s.shape.indentation = List.replicate s.spaces ' ' := by
      unfold Settings.shape
      rw [hspaces]
      rfl
    have hindentation' : s'.shape.indentation = ['\t'] := by
      unfold Settings.shape
      rw [htabs]
      rfl
    have hblank : s.shape.indentation = ' ' :: List.replicate (s.spaces - 1) ' ' := by
      rw [hindentation, ← List.replicate_succ, Nat.sub_add_cancel s.spaces_pos]
    have hreplaced := Document.layOut_lines_replaced hunbroken hblank
      (Settings.shape_terminator_congr hsemicolons).symm s.shape_plain.terminator
    rw [← String.toList_inj, String.toList_ofList, hlaidOut m hw, ← hindentation,
      ← hindentation', hreplaced]
    exact (hlaidOut (m.relaid (hw.trans hw'.symm) hlayout) hw').symm
  case width =>
    intro options options' s s' hs hs' hw hw' hsemicolons htabs htabs' noted
    exact buildDocument_congr_of_tabs hs hs' (hw.trans hw'.symm) hsemicolons htabs htabs' ..

/-- **Formatting changes the layout only.** For every schema and every wording
there is one document that underlies all texts of the schema in that wording,
whatever indents and terminates its lines and wherever it goes. -/
theorem formatting_changes_layout_only (schema records : Value) (w : Wording) :
    ∃ d : Document, d.Underlies schema records w := by
  by_cases hmade : ∃ s : Settings, s.wording = w ∧ Nonempty (Making s schema records)
  · obtain ⟨s, hw, ⟨m⟩⟩ := hmade
    exact ⟨m.document, m.underlies hw⟩
  · -- no text comes out in that wording
    have hnone : ∀ {noted : Bool} {options : Options} {s : Settings} {text : String},
        options.settings = .ok s → s.wording = w →
          ¬ (buildDocument noted schema options records).text = .ok text := by
      intro noted options s text hs hw htext
      obtain ⟨m, -⟩ := (buildDocument_ok_iff hs).mp htext
      exact hmade ⟨s, hw, ⟨m⟩⟩
    refine ⟨default, ?_, fun _ => Document.terminated_iff, fun _ => Document.indented_iff, ?_, ?_⟩
    · exact fun hs hw htext => absurd htext (hnone hs hw)
    · exact fun _ _ _ _ _ _ _ hs _ hw _ _ _ _ htext => absurd htext (hnone hs hw)
    · intro options options' s s' hs hs' hw hw' hsemicolons htabs htabs' noted
      exact buildDocument_congr_of_tabs hs hs' (hw.trans hw'.symm) hsemicolons htabs htabs' ..

end Texts

end CollectionTypes
