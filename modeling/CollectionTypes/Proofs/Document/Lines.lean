import CollectionTypes.Document.Basic

/-!
# Which lines a document has

The lines of a document are that of the imports, blank ones, and those of its
declarations (`Document.mem_lines_iff`). The lines that are terminated are the
line of the imports, those of the members and those that close a declaration
(`Document.terminated_iff`), and the members alone are indented
(`Document.indented_iff`).

Where no text that is printed breaks a line, no line is broken
(`Document.Unbroken.core`).

What an indentation and a terminator look like depends on three settings only
(`Settings.shape`).
-/

namespace CollectionTypes

/-! ## The layout of settings -/

namespace Settings

/-- **The layout of settings**, as far as it is possible. -/
def shape (s : Settings) : Layout where
  indentation := if s.useTabs then ['\t'] else List.replicate s.spaces ' '
  terminator := s.terminator.toList

variable {s : Settings} {l : Layout}

theorem layout_eq_shape (h : s.layout = .ok l) : l = s.shape := by
  unfold layout at h
  unfold shape
  split at h
  · next htabs =>
    rw [if_pos htabs, Except.ok.inj h]
  · next htabs =>
    rw [if_neg htabs]
    unfold blanks at h
    split at h
    · exact (Except.ok.inj h).symm
    · split at h <;> cases h

end Settings

/-- **A layout that leaves lines alone**: an indentation begins with a tab or a
blank, and neither an indentation nor a terminator breaks a line. -/
structure Layout.Plain (l : Layout) : Prop where
  begins : ∃ c cs, l.indentation = c :: cs ∧ (c = '\t' ∨ c = ' ')
  indentation : '\n' ∉ l.indentation
  terminator : '\n' ∉ l.terminator

/-- The layout of settings leaves lines alone. -/
theorem Settings.shape_plain (s : Settings) : s.shape.Plain where
  begins := by
    unfold shape
    dsimp only
    split
    · exact ⟨_, _, rfl, .inl rfl⟩
    · obtain ⟨n, hn⟩ := Nat.exists_eq_succ_of_ne_zero (Nat.ne_of_gt s.spaces_pos)
      rw [hn, List.replicate_succ]
      exact ⟨_, _, rfl, .inr rfl⟩
  indentation := by
    unfold shape
    dsimp only
    split
    · decide
    · exact fun h => absurd (List.eq_of_mem_replicate h) (by decide)
  terminator := by
    unfold shape terminator
    dsimp only
    split <;> decide

/-! ## Lines as they are laid out -/

/-- A line as it is laid out, without the indentation in front and the line
feed behind. -/
def Line.inside (l : Layout) (line : Line) : List Char :=
  line.core ++ if line.terminated then l.terminator else []

theorem layOut_cons (l : Layout) (line : Line) (lines : List Line) :
    layOut l (line :: lines)
      = (if line.indented then l.indentation else [])
        ++ (line.inside l ++ '\n' :: layOut l lines) := by
  unfold layOut Line.chars Line.inside
  rw [List.flatMap_cons, List.append_assoc, List.append_assoc, List.append_assoc,
    List.append_assoc]
  rfl

/-! ## Texts that are printed -/

/-- What is printed of a member. -/
def Member.texts (m : Member) : List String :=
  [m.name, m.type]

/-- What is printed of a declaration. -/
def Block.texts (b : Block) : List String :=
  b.typeName :: b.baseType :: b.members.flatMap Member.texts

namespace Document

/-- All declarations, that of the list of the collections last. -/
def declarations (d : Document) : List Block :=
  d.blocks ++ [d.rollup]

/-- **What is printed of a document.** -/
def texts (d : Document) : List String :=
  d.hostModule :: d.specifiers ++ d.declarations.flatMap Block.texts

/-- **No text that is printed breaks a line.** -/
def Unbroken (d : Document) : Prop :=
  ∀ t ∈ d.texts, '\n' ∉ t.toList

end Document

/-! ## Lines of each kind -/

/-- A member name breaks a line only if the name does. -/
theorem Naming.not_mem_memberChars {cs : List Char} (h : '\n' ∉ cs) :
    '\n' ∉ memberChars cs := by
  have hescaped : ∀ c ∈ cs, '\n' ∉ escapedChar c := by
    intro c hc hmem
    have hne : '\n' ≠ c := fun hsame => h (hsame ▸ hc)
    unfold escapedChar at hmem
    split at hmem <;> simp [hne] at hmem
  have hquoted : '\n' ∉ cs.flatMap escapedChar := by
    intro hmem
    obtain ⟨c, hc, hmem⟩ := List.mem_flatMap.mp hmem
    exact hescaped c hc hmem
  unfold memberChars
  split
  · exact h
  · simp [hquoted]

theorem Member.not_mem_core {m : Member} (hname : '\n' ∉ m.name.toList)
    (htype : '\n' ∉ m.type.toList) : '\n' ∉ m.line.core := by
  unfold line
  rw [Naming.toList_member]
  simp [Naming.not_mem_memberChars hname, htype]

theorem Block.not_mem_opening {b : Block} (htype : '\n' ∉ b.typeName.toList)
    (hbase : '\n' ∉ b.baseType.toList) : '\n' ∉ b.opening.core := by
  unfold opening
  split <;> simp [htype, hbase]

theorem not_mem_commaSeparated {ss : List String} (h : ∀ t ∈ ss, '\n' ∉ t.toList) :
    '\n' ∉ commaSeparated ss := by
  unfold commaSeparated
  induction ss with
  | nil => exact List.not_mem_nil
  | cons s ss ih =>
    rw [List.forall_mem_cons] at h
    cases ss with
    | nil => simpa using h.1
    | cons t ss =>
      rw [List.map_cons, List.map_cons, List.intercalate_cons_cons, List.mem_append,
        List.mem_append]
      rintro ((hs | hcomma) | hrest)
      · exact h.1 hs
      · exact absurd hcomma (by decide)
      · exact ih h.2 hrest

theorem not_mem_importLine {ss : List String} {hostModule : String}
    (hs : ∀ t ∈ ss, '\n' ∉ t.toList) (hmodule : '\n' ∉ hostModule.toList) :
    '\n' ∉ (importLine ss hostModule).core := by
  unfold importLine
  simp [not_mem_commaSeparated hs, hmodule]

/-! ## All lines -/

namespace Block

theorem mem_lines_iff {b : Block} {line : Line} :
    line ∈ b.lines ↔ line = b.opening ∨ (∃ m ∈ b.members, line = m.line) ∨ line = closing := by
  unfold lines
  rw [List.mem_append, List.mem_cons, List.mem_map, List.mem_singleton, or_assoc]
  simp only [eq_comm]

end Block

namespace Document

variable {d : Document} {line : Line}

theorem mem_lines_iff : line ∈ d.lines
    ↔ line = importLine d.specifiers d.hostModule ∨ line = .blank
      ∨ ∃ b ∈ d.declarations, line ∈ b.lines := by
  unfold lines declarations
  simp only [List.cons_append, List.mem_cons, List.mem_append, List.mem_flatMap,
    List.not_mem_nil, or_false]
  refine or_congr_right ⟨?_, ?_⟩
  · rintro (h | ⟨b, hb, h | h⟩ | h)
    · exact .inl h
    · exact .inr ⟨b, .inl hb, h⟩
    · exact .inl h
    · exact .inr ⟨_, .inr rfl, h⟩
  · rintro (h | ⟨b, hb | rfl, h⟩)
    · exact .inl h
    · exact .inr (.inl ⟨b, hb, .inl h⟩)
    · exact .inr (.inr h)

/-- **The terminated lines** are the line of the imports, those of the members,
and those that close a declaration. -/
theorem terminated_iff (h : line ∈ d.lines) : line.terminated = true
    ↔ line = importLine d.specifiers d.hostModule
      ∨ (∃ b ∈ d.declarations, ∃ m ∈ b.members, line = m.line) ∨ line = Block.closing := by
  constructor
  · intro hterminated
    rcases mem_lines_iff.mp h with h | rfl | ⟨b, hb, h⟩
    · exact .inl h
    · cases hterminated
    · rcases Block.mem_lines_iff.mp h with rfl | ⟨m, hm, h⟩ | h
      · cases hterminated
      · exact .inr (.inl ⟨b, hb, m, hm, h⟩)
      · exact .inr (.inr h)
  · rintro (rfl | ⟨b, -, m, -, rfl⟩ | rfl) <;> rfl

/-- **The indented lines** are those of the members. -/
theorem indented_iff (h : line ∈ d.lines) : line.indented = true
    ↔ ∃ b ∈ d.declarations, ∃ m ∈ b.members, line = m.line := by
  constructor
  · intro hindented
    rcases mem_lines_iff.mp h with rfl | rfl | ⟨b, hb, h⟩
    · cases hindented
    · cases hindented
    · rcases Block.mem_lines_iff.mp h with rfl | ⟨m, hm, h⟩ | rfl
      · cases hindented
      · exact ⟨b, hb, m, hm, h⟩
      · cases hindented
  · rintro ⟨b, -, m, -, rfl⟩
    rfl

/-- **No line is broken** where no text breaks one. -/
theorem Unbroken.core (hd : d.Unbroken) (h : line ∈ d.lines) : '\n' ∉ line.core := by
  have hblock : ∀ b ∈ d.declarations, ∀ t ∈ b.texts, '\n' ∉ t.toList := fun b hb t ht =>
    hd t (List.mem_append_right _ (List.mem_flatMap.mpr ⟨b, hb, ht⟩))
  rcases mem_lines_iff.mp h with rfl | rfl | ⟨b, hb, h⟩
  · refine not_mem_importLine (fun t ht => hd t ?_) (hd d.hostModule ?_)
    · exact List.mem_append_left _ (List.mem_cons_of_mem _ ht)
    · exact List.mem_append_left _ List.mem_cons_self
  · exact List.not_mem_nil
  · have htexts := hblock b hb
    rcases Block.mem_lines_iff.mp h with rfl | ⟨m, hm, rfl⟩ | rfl
    · exact Block.not_mem_opening (htexts _ List.mem_cons_self)
        (htexts _ (List.mem_cons_of_mem _ List.mem_cons_self))
    · have hmember : ∀ t ∈ m.texts, '\n' ∉ t.toList := fun t ht =>
        htexts t (List.mem_cons_of_mem _ (List.mem_cons_of_mem _
          (List.mem_flatMap.mpr ⟨m, hm, ht⟩)))
      exact Member.not_mem_core (hmember _ List.mem_cons_self)
        (hmember _ (List.mem_cons_of_mem _ List.mem_cons_self))
    · decide

end Document

end CollectionTypes
