import CollectionTypes.Proofs.Document.Reading
import CollectionTypes.Proofs.Generation.Making

/-!
# What a document tells

`Contents.read` reads a whole document: the import specifiers, the
declarations, and the members of the last declaration. The settings are known,
so where the types are imported from and what the last declaration is called
need not be read; either may be any text.

How many declarations there are is told by the lines that begin one
(`openings`): no other line begins like that, and how often the name of the
last declaration does is known. `contents_are_told` says that what was rendered
is read again, so that no two contents have one text.
-/

namespace CollectionTypes

open Text Text.Reader

/-! ## Declarations -/

namespace Block

/-- The type that a declaration extends, or nothing, up to the end of the line. -/
def readBase : Reader String := fun cs =>
  match ("\x7b\n".toList).isPrefixOf? cs with
  | some cs => some ("", cs)
  | none => do
    let (base, cs) ← word cs
    let cs ← (" & \x7b\n".toList).isPrefixOf? cs
    return (base, cs)

/-- **A declaration**, and the blank line behind it. -/
def read (l : Layout) : Reader Block := fun cs => do
  let cs ← ("export type ".toList).isPrefixOf? cs
  let (typeName, cs) ← word cs
  let cs ← (" = ".toList).isPrefixOf? cs
  let (baseType, cs) ← readBase cs
  let (members, cs) := many (Member.read l) cs
  let cs ← (closing.chars l ++ ['\n']).isPrefixOf? cs
  return (⟨typeName, baseType, members⟩, cs)

/-- **A declaration that can be read**: words name the types, and no member
breaks a line. -/
structure Legible (b : Block) : Prop where
  typeName : IsWord b.typeName
  baseType : b.baseType ≠ "" → IsWord b.baseType
  members : ∀ m ∈ b.members, m.Unbroken

instance (b : Block) : Decidable b.Legible :=
  decidable_of_iff (IsWord b.typeName ∧ (b.baseType ≠ "" → IsWord b.baseType)
      ∧ ∀ m ∈ b.members, m.Unbroken)
    ⟨fun h => ⟨h.1, h.2.1, h.2.2⟩, fun h => ⟨h.typeName, h.baseType, h.members⟩⟩

/-- What stands behind the equals sign of a declaration in its first line. -/
def baseChars (b : Block) : List Char :=
  (if b.baseType = "" then [] else b.baseType.toList ++ " & ".toList) ++ ['\x7b']

theorem opening_core (b : Block) :
    b.opening.core
      = "export type ".toList ++ (b.typeName.toList ++ (" = ".toList ++ b.baseChars)) := by
  unfold opening baseChars
  simp only [List.append_assoc]

theorem readBase_append {b : Block} (h : b.baseType ≠ "" → IsWord b.baseType)
    (rest : List Char) : readBase (b.baseChars ++ '\n' :: rest) = some (b.baseType, rest) := by
  unfold baseChars
  by_cases hempty : b.baseType = ""
  · rw [hempty]
    rfl
  · have hword := h hempty
    have hline : b.baseType.toList ++ " & ".toList ++ ['\x7b'] ++ '\n' :: rest
        = b.baseType.toList ++ ' ' :: ("& \x7b\n".toList ++ rest) := by
      simp
    have hrest : (" & \x7b\n".toList).isPrefixOf? (' ' :: ("& \x7b\n".toList ++ rest))
        = some rest := isPrefixOf?_append " & \x7b\n".toList rest
    -- a word is not a brace at the end of a line
    have hnone : ("\x7b\n".toList).isPrefixOf?
        (b.baseType.toList ++ ' ' :: ("& \x7b\n".toList ++ rest)) = none :=
      hword.isPrefixOf?_eq_none (by decide) (by decide) [] _
    rw [if_neg hempty, hline]
    unfold readBase
    rw [hnone]
    show (word (b.baseType.toList ++ ' ' :: _)).bind _ = _
    rw [word_append hword (by decide), Option.bind_some]
    dsimp only
    rw [hrest]
    rfl

section Layout

variable {l : Layout}

/-- **Members are read** up to the end of their declaration. -/
theorem readMembers_append (hl : l.Plain) {ms : List Member} (h : ∀ m ∈ ms, m.Unbroken)
    (rest : List Char) :
    many (Member.read l) (ms.flatMap (fun m => m.line.chars l) ++ (closing.chars l ++ rest))
      = (ms, closing.chars l ++ rest) := by
  refine many_flatMap (fun _ => True) (fun m hm rest _ => (h m hm).reads hl rest)
    (fun _ _ _ => trivial) (fun m _ hnil => ?_) trivial (Member.read_closing hl rest)
  exact List.append_ne_nil_of_right_ne_nil _ (List.cons_ne_nil '\n' []) hnil

theorem layOut_lines (l : Layout) (b : Block) :
    layOut l b.lines = b.opening.core ++ '\n' ::
      (b.members.flatMap (fun m => m.line.chars l) ++ closing.chars l) := by
  unfold layOut lines
  rw [List.cons_append, List.flatMap_cons, List.flatMap_append, List.flatMap_map,
    List.flatMap_singleton]
  show [] ++ b.opening.core ++ [] ++ ['\n'] ++ _ = _
  simp

/-- **A declaration is read.** -/
theorem Legible.reads {b : Block} (h : b.Legible) (hl : l.Plain) :
    (Block.read l).Reads (layOut l b.lines ++ ['\n']) b := by
  intro rest
  have htext : layOut l b.lines ++ ['\n'] ++ rest
      = "export type ".toList ++ (b.typeName.toList ++ ' ' :: ("= ".toList ++
          (b.baseChars ++ '\n' :: (b.members.flatMap (fun m => m.line.chars l)
            ++ (closing.chars l ++ ('\n' :: rest)))))) := by
    rw [layOut_lines, opening_core]
    simp
  have hequals : (" = ".toList).isPrefixOf? (' ' :: ("= ".toList ++
      (b.baseChars ++ '\n' :: (b.members.flatMap (fun m => m.line.chars l)
        ++ (closing.chars l ++ ('\n' :: rest))))))
      = some (b.baseChars ++ '\n' :: (b.members.flatMap (fun m => m.line.chars l)
        ++ (closing.chars l ++ ('\n' :: rest)))) := isPrefixOf?_append " = ".toList _
  have hend : (closing.chars l ++ ['\n']).isPrefixOf? (closing.chars l ++ ('\n' :: rest))
      = some rest := by
    have happend := isPrefixOf?_append (closing.chars l ++ ['\n']) rest
    rwa [List.append_assoc] at happend
  unfold Block.read
  rw [htext, isPrefixOf?_append]
  show (word (b.typeName.toList ++ ' ' :: _)).bind _ = _
  rw [word_append h.typeName (by decide), Option.bind_some]
  dsimp only
  rw [hequals]
  show (readBase (b.baseChars ++ '\n' :: _)).bind _ = _
  rw [readBase_append h.baseType, Option.bind_some]
  dsimp only
  rw [readMembers_append hl h.members]
  dsimp only
  rw [hend]
  rfl

end Layout

end Block

/-! ## How many declarations there are -/

/-- **How many lines begin a declaration.** -/
def openings (cs : List Char) : Nat :=
  (cutAt '\n' cs).countP fun line => ("export type ".toList).isPrefixOf line

theorem openings_append (as bs : List Char) :
    openings (as ++ '\n' :: bs) = openings as + openings bs := by
  unfold openings
  rw [cutAt_append, List.countP_append]

/-- A line that begins otherwise begins no declaration. -/
theorem openings_of_ne {a : Char} {as : List Char} (ha : a ≠ 'e') (h : '\n' ∉ a :: as) :
    openings (a :: as) = 0 := by
  have hne : ("export type ".toList).isPrefixOf (a :: as) = false :=
    Bool.eq_false_iff.mpr fun hbegins =>
      ha (List.cons_prefix_cons.mp (List.isPrefixOf_iff_prefix.mp hbegins)).1.symm
  unfold openings
  rw [cutAt_of_not_mem h, List.countP_singleton, if_neg (Bool.eq_false_iff.mp hne)]

section Layout

variable {l : Layout} (hl : l.Plain)

include hl

theorem openings_members {ms : List Member} (h : ∀ m ∈ ms, m.Unbroken) (rest : List Char) :
    openings (ms.flatMap (fun m => m.line.chars l) ++ rest) = openings rest := by
  induction ms with
  | nil => rfl
  | cons m ms ih =>
    rw [List.forall_mem_cons] at h
    have hline : m.line.chars l = (l.indentation ++ m.line.inside l) ++ ['\n'] := by
      unfold Line.chars Line.inside
      simp [Member.line]
    have hbreak : '\n' ∉ l.indentation ++ m.line.inside l := by
      unfold Line.inside
      rw [List.mem_append, List.mem_append, not_or, not_or]
      exact ⟨hl.indentation, Member.not_mem_core h.1.name h.1.type, hl.terminator⟩
    have hnone : openings (l.indentation ++ m.line.inside l) = 0 := by
      obtain ⟨c, cs, hindentation, hc⟩ := hl.begins
      have hother : c ≠ 'e' := by
        rcases hc with rfl | rfl <;> decide
      rw [hindentation, List.cons_append] at hbreak ⊢
      exact openings_of_ne hother hbreak
    rw [List.flatMap_cons, List.append_assoc, hline, List.append_assoc, List.singleton_append,
      openings_append, hnone, Nat.zero_add, ih h.2]

theorem openings_closing (rest : List Char) :
    openings (Block.closing.chars l ++ rest) = openings rest := by
  have hline : Block.closing.chars l ++ rest = ('\x7d' :: l.terminator) ++ '\n' :: rest := by
    simp [Line.chars, Block.closing]
  have hnone : openings ('\x7d' :: l.terminator) = 0 := by
    refine openings_of_ne (by decide) ?_
    rw [List.mem_cons, not_or]
    exact ⟨by decide, hl.terminator⟩
  rw [hline, openings_append, hnone, Nat.zero_add]

/-- A declaration begins once. -/
theorem Block.Legible.openings {b : Block} (h : b.Legible) (rest : List Char) :
    openings (layOut l b.lines ++ ['\n'] ++ rest) = openings rest + 1 := by
  have hbase : '\n' ∉ b.baseType.toList := by
    by_cases hempty : b.baseType = ""
    · rw [hempty]
      exact List.not_mem_nil
    · exact (h.baseType hempty).not_mem (by decide)
  have hopening : CollectionTypes.openings b.opening.core = 1 := by
    have hbegins : ("export type ".toList).isPrefixOf b.opening.core = true := by
      rw [opening_core]
      exact List.isPrefixOf_iff_prefix.mpr (List.prefix_append _ _)
    unfold CollectionTypes.openings
    rw [cutAt_of_not_mem (not_mem_opening (h.typeName.not_mem (by decide)) hbase),
      List.countP_singleton, if_pos hbegins]
  have hblank : CollectionTypes.openings ('\n' :: rest) = CollectionTypes.openings rest := by
    rw [← List.nil_append ('\n' :: rest), openings_append]
    exact Nat.zero_add _
  rw [layOut_lines, List.append_assoc, List.append_assoc, List.cons_append, openings_append,
    hopening, List.append_assoc, openings_members hl h.members, openings_closing hl,
    List.singleton_append, hblank, Nat.add_comm]

theorem openings_blocks {bs : List Block} (h : ∀ b ∈ bs, b.Legible) (rest : List Char) :
    openings (bs.flatMap (fun b => layOut l b.lines ++ ['\n']) ++ rest)
      = openings rest + bs.length := by
  induction bs with
  | nil => rfl
  | cons b bs ih =>
    rw [List.forall_mem_cons] at h
    rw [List.flatMap_cons, List.append_assoc,
      h.1.openings hl, ih h.2, List.length_cons, Nat.add_assoc]

end Layout

/-! ## Whole documents -/

namespace Contents

/-- How the last declaration begins. -/
def header (s : Settings) : Line :=
  Block.opening { typeName := s.rollupTypeName, members := [] }

/-- What stands between the specifiers and the declarations. -/
def importEnd (s : Settings) : List Char :=
  " \x7d from '".toList ++ (s.hostModule.toList ++ '\'' :: (s.shape.terminator ++ ['\n', '\n']))

/-- **What a document tells.** -/
def read (s : Settings) (text : String) : Option Contents := do
  let cs ← ("import \x7b ".toList).isPrefixOf? text.toList
  let (specifiers, cs) := Imports.readSpecifiers cs
  let cs ← (importEnd s).isPrefixOf? cs
  let (blocks, cs) ← times (Block.read s.shape) (openings cs - openings (header s).core) cs
  let cs ← ((header s).core ++ ['\n']).isPrefixOf? cs
  let (listed, cs) := many (Member.read s.shape) cs
  if cs = Block.closing.chars s.shape then some ⟨specifiers, blocks, listed⟩ else none

/-- **Contents that can be read.** -/
structure Legible (c : Contents) : Prop where
  specifiers : ∀ t ∈ c.specifiers, Imports.IsSpecifier t
  blocks : ∀ b ∈ c.blocks, b.Legible
  listed : ∀ m ∈ c.listed, m.Unbroken

/-- The characters of a document, as they are read. -/
theorem layOut_document (s : Settings) (c : Contents) :
    layOut s.shape (c.document s).lines
      = "import \x7b ".toList ++ (commaSeparated c.specifiers ++ (importEnd s ++
          (c.blocks.flatMap (fun b => layOut s.shape b.lines ++ ['\n']) ++ ((header s).core ++
            '\n' :: (c.listed.flatMap (fun m => m.line.chars s.shape)
              ++ Block.closing.chars s.shape))))) := by
  have hblocks : layOut s.shape (c.blocks.flatMap fun b => b.lines ++ [Line.blank])
      = c.blocks.flatMap fun b => layOut s.shape b.lines ++ ['\n'] := by
    unfold layOut
    rw [List.flatMap_assoc]
    simp only [List.flatMap_append, List.flatMap_singleton]
    rfl
  have himports : (importLine c.specifiers s.hostModule).chars s.shape
      ++ Line.blank.chars s.shape
      = "import \x7b ".toList ++ (commaSeparated c.specifiers ++ importEnd s) := by
    unfold Line.chars importLine importEnd
    simp only [List.append_assoc]
    rfl
  have hfront : layOut s.shape (importLine c.specifiers s.hostModule :: Line.blank
        :: c.blocks.flatMap fun b => b.lines ++ [Line.blank])
      = "import \x7b ".toList ++ (commaSeparated c.specifiers ++ (importEnd s
          ++ c.blocks.flatMap fun b => layOut s.shape b.lines ++ ['\n'])) := by
    rw [← hblocks]
    unfold layOut
    rw [List.flatMap_cons, List.flatMap_cons, ← List.append_assoc, himports]
    simp only [List.append_assoc]
  have hrollup : layOut s.shape (c.rollup s).lines = (header s).core ++
      '\n' :: (c.listed.flatMap (fun m => m.line.chars s.shape)
        ++ Block.closing.chars s.shape) :=
    Block.layOut_lines s.shape (c.rollup s)
  show layOut s.shape (_ ++ (c.rollup s).lines) = _
  rw [layOut_append, hrollup]
  show layOut s.shape (importLine c.specifiers s.hostModule :: Line.blank
        :: c.blocks.flatMap fun b => b.lines ++ [Line.blank]) ++ _ = _
  rw [hfront]
  simp only [List.append_assoc]

/-- **What is written is read.** -/
theorem Legible.read {c : Contents} (h : c.Legible) (s : Settings) {text : String}
    (htext : text.toList = layOut s.shape (c.document s).lines) :
    Contents.read s text = some c := by
  have hl := s.shape_plain
  have hcount : openings (c.blocks.flatMap (fun b => layOut s.shape b.lines ++ ['\n'])
      ++ ((header s).core ++ '\n' :: (c.listed.flatMap (fun m => m.line.chars s.shape)
        ++ Block.closing.chars s.shape))) - openings (header s).core = c.blocks.length := by
    have hclosing := openings_closing hl []
    have hend : openings [] = 0 := rfl
    rw [List.append_nil, hend] at hclosing
    rw [openings_blocks hl h.blocks, openings_append,
      openings_members hl h.listed, hclosing]
    exact Nat.add_sub_cancel_left ..
  have hspecifiers : ∀ rest, Imports.readSpecifiers
      (commaSeparated c.specifiers ++ (importEnd s ++ rest))
      = (c.specifiers, importEnd s ++ rest) := by
    intro rest
    unfold importEnd
    rw [List.append_assoc]
    exact Imports.readSpecifiers_append h.specifiers _
  have hheader : ∀ rest, ((header s).core ++ ['\n']).isPrefixOf? ((header s).core ++ '\n' :: rest)
      = some rest := by
    intro rest
    have happend := isPrefixOf?_append ((header s).core ++ ['\n']) rest
    rwa [List.append_assoc] at happend
  have hblocks := times_flatMap fun b hb => (h.blocks b hb).reads hl
  have hlisted := Block.readMembers_append hl h.listed []
  rw [List.append_nil] at hlisted
  unfold Contents.read
  rw [htext, layOut_document, isPrefixOf?_append]
  simp only [Option.bind_eq_bind, Option.bind_some]
  rw [hspecifiers]
  simp only [isPrefixOf?_append, Option.bind_some]
  rw [hcount, hblocks]
  simp only [hheader, Option.bind_some]
  rw [hlisted]
  exact if_pos rfl

end Contents

/-- What a document has to tell. -/
def Document.contents (d : Document) : Contents :=
  ⟨d.specifiers, d.blocks, d.rollup.members⟩

/-- **The text of a run** is what the parts of a document make of its contents. -/
theorem Making.rendered_contents {s : Settings} {schema records : Value}
    (m : Making s schema records) :
    m.document.contents.rendered s = .ok (m.document.text m.layout) :=
  Contents.rendered_eq m.layout_ok _

/-- **Rendering loses nothing.** Contents that can be read are rendered in every
layout that is possible, and what is rendered tells them all again: the import
specifiers, the declarations, and every member by name and type. -/
theorem contents_are_told {s : Settings} {l : Layout} (hl : s.layout = .ok l) {c : Contents}
    (hc : c.Legible) : ∃ text, c.rendered s = .ok text ∧ Contents.read s text = some c := by
  refine ⟨(c.document s).text l, c.rendered_eq hl, hc.read s ?_⟩
  rw [Document.toList_text, Settings.layout_eq_shape hl]

/-- Contents with an alias, an extension without members, and members whose
names hold whatever sets off a member. -/
def Contents.intricate : Contents where
  specifiers := ["PrimaryKey", "User as DirectusUser"]
  blocks :=
    [{ typeName := "Post",
       members := [⟨"it's a \\ \x7d", "string | null"⟩, ⟨"': string;", "number"⟩, ⟨"", "unknown"⟩] },
     { typeName := "User", baseType := "DirectusUser", members := [] }]
  listed := [⟨"post", "Post[]"⟩, ⟨"user", "User[]"⟩]

/-- Intricate contents are told. -/
theorem intricate_contents_are_told :
    Settings.layout {} = .ok ⟨[' ', ' '], []⟩ ∧ Contents.intricate.Legible
      ∧ ∃ text, Contents.intricate.rendered {} = .ok text
        ∧ Contents.read {} text = some Contents.intricate := by
  have hkey : Imports.IsSpecifier "PrimaryKey" :=
    ⟨("PrimaryKey", none), rfl, by decide +kernel, by simp⟩
  have halias : ∀ a ∈ some "DirectusUser", IsWord a := by
    simpa using (by decide +kernel : IsWord "DirectusUser")
  have hrenamed : Imports.IsSpecifier "User as DirectusUser" :=
    ⟨("User", some "DirectusUser"), rfl, by decide +kernel, halias⟩
  have hspecifiers : ∀ t ∈ Contents.intricate.specifiers, Imports.IsSpecifier t :=
    List.forall_mem_cons.mpr ⟨hkey, List.forall_mem_singleton.mpr hrenamed⟩
  have hlegible : Contents.intricate.Legible :=
    ⟨hspecifiers, by decide +kernel, by decide +kernel⟩
  have hlayout : Settings.layout {} = .ok ⟨[' ', ' '], []⟩ := rfl
  exact ⟨hlayout, hlegible, contents_are_told hlayout hlegible⟩

end CollectionTypes
