import CollectionTypes.Proofs.Document.Contents
import CollectionTypes.Proofs.Text.Reader

/-!
# Specifiers and members read back

Import specifiers are words, perhaps with an alias, and commas stand between
them (`Imports.readSpecifiers`). A member may have any name that does not break
a line: a name that is no identifier stands between apostrophes, whatever it
holds, and reading undoes the escapes (`Naming.readMember`). What the type of a
member is goes up to the end of the line (`Member.read`).
-/

namespace CollectionTypes

open Text Text.Reader

/-! ## Import specifiers -/

namespace Imports

/-- **A specifier that can be read**: a word, perhaps under another word as its
alias. -/
def IsSpecifier (t : String) : Prop :=
  ∃ e : String × Option String, t = specifier e ∧ IsWord e.1 ∧ ∀ a ∈ e.2, IsWord a

/-- A specifier. -/
def readSpecifier : Reader String := fun cs => do
  let (name, cs) ← word cs
  match (" as ".toList).isPrefixOf? cs with
  | none => return (specifier (name, none), cs)
  | some cs =>
    let (localName, cs) ← word cs
    return (specifier (name, some localName), cs)

/-- A specifier behind a comma. -/
def readListed : Reader String := fun cs => do
  let cs ← (", ".toList).isPrefixOf? cs
  readSpecifier cs

/-- **Specifiers** with a comma between them. -/
def readSpecifiers (cs : List Char) : List String × List Char :=
  match readSpecifier cs with
  | none => ([], cs)
  | some (t, cs) =>
    let (ts, cs) := many readListed cs
    (t :: ts, cs)

/-- What ends a specifier. -/
def EndsSpecifier (cs : List Char) : Prop :=
  (∃ c rest, cs = c :: rest ∧ inWord c = false) ∧ (" as ".toList).isPrefixOf? cs = none

/-- A comma ends a specifier. -/
theorem endsSpecifier_comma (cs : List Char) : EndsSpecifier (", ".toList ++ cs) :=
  ⟨⟨',', ' ' :: cs, rfl, by decide⟩, rfl⟩

/-- The end of the list of the specifiers ends a specifier. -/
theorem endsSpecifier_from (cs : List Char) : EndsSpecifier (" \x7d from '".toList ++ cs) :=
  ⟨⟨' ', '\x7d' :: " from '".toList ++ cs, rfl, by decide⟩, rfl⟩

theorem readSpecifier_append {t : String} (h : IsSpecifier t) {cs : List Char}
    (hcs : EndsSpecifier cs) : readSpecifier (t.toList ++ cs) = some (t, cs) := by
  obtain ⟨⟨name, localName?⟩, rfl, hname, halias⟩ := h
  obtain ⟨⟨c, rest, rfl, hc⟩, hnoAlias⟩ := hcs
  unfold readSpecifier
  cases localName? with
  | none =>
    show (word (name.toList ++ c :: rest)).bind _ = _
    rw [word_append hname hc, Option.bind_some]
    dsimp only
    rw [hnoAlias]
    rfl
  | some localName =>
    have htext : (specifier (name, some localName)).toList ++ c :: rest
        = name.toList ++ ' ' :: ("as ".toList ++ (localName.toList ++ c :: rest)) := by
      unfold specifier
      simp only [String.toList_append, List.append_assoc]
      rfl
    have hbegins : (" as ".toList).isPrefixOf?
        (' ' :: ("as ".toList ++ (localName.toList ++ c :: rest)))
        = some (localName.toList ++ c :: rest) := isPrefixOf?_append " as ".toList _
    rw [htext]
    show (word (name.toList ++ ' ' :: _)).bind _ = _
    rw [word_append hname (by decide), Option.bind_some]
    dsimp only
    rw [hbegins]
    dsimp only
    show (word (localName.toList ++ c :: rest)).bind _ = _
    rw [word_append (halias localName rfl) hc]
    rfl

theorem readListed_append {t : String} (h : IsSpecifier t) {cs : List Char}
    (hcs : EndsSpecifier cs) :
    readListed ((", ".toList ++ t.toList) ++ cs) = some (t, cs) := by
  unfold readListed
  rw [List.append_assoc, isPrefixOf?_append]
  exact readSpecifier_append h hcs

theorem commaSeparated_cons (t : String) (ts : List String) :
    commaSeparated (t :: ts) = t.toList ++ ts.flatMap fun t => ", ".toList ++ t.toList := by
  unfold commaSeparated
  induction ts generalizing t with
  | nil => simp
  | cons u us ih =>
    rw [List.map_cons, List.map_cons, List.intercalate_cons_cons, ← List.map_cons, ih u,
      List.flatMap_cons]
    simp only [List.append_assoc]

/-- **The specifiers are read** up to the end of their list. -/
theorem readSpecifiers_append {ts : List String} (h : ∀ t ∈ ts, IsSpecifier t)
    (cs : List Char) :
    readSpecifiers (commaSeparated ts ++ (" \x7d from '".toList ++ cs))
      = (ts, " \x7d from '".toList ++ cs) := by
  cases ts with
  | nil => rfl
  | cons t ts =>
    rw [List.forall_mem_cons] at h
    have hmany : many readListed ((ts.flatMap fun t => ", ".toList ++ t.toList)
        ++ (" \x7d from '".toList ++ cs)) = (ts, " \x7d from '".toList ++ cs) :=
      many_flatMap EndsSpecifier (fun t ht _ => readListed_append (h.2 t ht))
        (fun t _ rest => List.append_assoc .. ▸ endsSpecifier_comma (t.toList ++ rest))
        (fun t _ => List.cons_ne_nil _ _) (endsSpecifier_from cs) rfl
    have hends : EndsSpecifier ((ts.flatMap fun t => ", ".toList ++ t.toList)
        ++ (" \x7d from '".toList ++ cs)) := by
      cases ts with
      | nil => exact endsSpecifier_from cs
      | cons u us =>
        rw [List.flatMap_cons, List.append_assoc, List.append_assoc]
        exact endsSpecifier_comma _
    unfold readSpecifiers
    rw [commaSeparated_cons, List.append_assoc, readSpecifier_append h.1 hends]
    dsimp only
    rw [hmany]

end Imports

/-! ## Members -/

namespace Naming

/-- Characters up to an apostrophe, with the escapes undone. `escaped` tells
whether a backslash stands in front. -/
def readQuoted : (escaped : Bool) → Reader (List Char)
  | _, [] => none
  | true, c :: rest => (readQuoted false rest).map fun (cs, rest) => (c :: cs, rest)
  | false, c :: rest =>
    if c = '\'' then some ([], rest)
    else if c = '\\' then readQuoted true rest
    else (readQuoted false rest).map fun (cs, rest) => (c :: cs, rest)

/-- **A member name.** -/
def readMember : Reader String := fun cs =>
  if cs.head? = some '\'' then
    (readQuoted false cs.tail).map fun (name, rest) => (String.ofList name, rest)
  else
    some (String.ofList (cs.takeWhile continuesIdentifier), cs.dropWhile continuesIdentifier)

theorem readQuoted_append (cs rest : List Char) :
    readQuoted false (cs.flatMap escapedChar ++ '\'' :: rest) = some (cs, rest) := by
  induction cs with
  | nil =>
    rw [List.flatMap_nil, List.nil_append, readQuoted, if_pos rfl]
  | cons c cs ih =>
    rw [List.flatMap_cons, List.append_assoc, escapedChar]
    split
    · rw [List.cons_append, List.cons_append, List.nil_append, readQuoted, if_neg (by decide),
        if_pos rfl, readQuoted, ih, Option.map_some]
    · next hplain =>
      rw [not_or] at hplain
      rw [List.cons_append, List.nil_append, readQuoted, if_neg hplain.2, if_neg hplain.1, ih,
        Option.map_some]

/-- A name that stands bare and does not break a line is an identifier. -/
theorem isIdentifier_of_standsBare {cs : List Char} (h : '\n' ∉ cs)
    (hbare : standsBare cs = true) : isIdentifier cs = true := by
  have hlast : ¬ cs.getLast? = some '\n' := fun hlast => h (List.mem_of_getLast? hlast)
  unfold standsBare chomp at hbare
  rwa [if_neg hlast] at hbare

theorem continuesIdentifier_of_begins {c : Char} (h : beginsIdentifier c = true) :
    continuesIdentifier c = true := by
  unfold beginsIdentifier at h
  unfold continuesIdentifier Char.isAlphanum
  simp only [Bool.or_eq_true] at h ⊢
  tauto

/-- **A member name is read** up to the colon behind it. -/
theorem readMember_append {s : String} (h : '\n' ∉ s.toList) (rest : List Char) :
    readMember ((member s).toList ++ ':' :: rest) = some (s, ':' :: rest) := by
  rw [toList_member, memberChars]
  unfold readMember
  split
  · next hbare =>
    have hidentifier := isIdentifier_of_standsBare h hbare
    have hall : ∀ c ∈ s.toList, continuesIdentifier c = true := by
      intro c hc
      cases hs : s.toList with
      | nil =>
        rw [hs] at hc
        cases hc
      | cons d ds =>
        rw [hs] at hc hidentifier
        obtain ⟨hd, hds⟩ := Bool.and_eq_true_iff.mp hidentifier
        rcases List.mem_cons.mp hc with rfl | hc
        · exact continuesIdentifier_of_begins hd
        · exact List.all_eq_true.mp hds c hc
    have hhead : ¬ (s.toList ++ ':' :: rest).head? = some '\'' := by
      intro hhead
      cases hs : s.toList with
      | nil =>
        rw [hs] at hidentifier
        cases hidentifier
      | cons d ds =>
        rw [hs] at hhead
        have hd := hall d (hs ▸ List.mem_cons_self)
        rw [Option.some.inj hhead] at hd
        exact absurd hd (by decide)
    have hcolon : ¬ continuesIdentifier ':' = true := by decide
    rw [if_neg hhead, List.takeWhile_append_of_pos hall, List.takeWhile_cons_of_neg hcolon,
      List.dropWhile_append_of_pos hall, List.dropWhile_cons_of_neg hcolon, List.append_nil,
      String.ofList_toList]
  · have htext : ('\'' :: s.toList.flatMap escapedChar ++ ['\'']) ++ ':' :: rest
        = '\'' :: (s.toList.flatMap escapedChar ++ '\'' :: (':' :: rest)) := by
      simp
    rw [htext, if_pos List.head?_cons, List.tail_cons, readQuoted_append, Option.map_some]
    dsimp only
    rw [String.ofList_toList]

end Naming

namespace Member

/-- **A member**: a line with an indentation, a name, and a type. -/
def read (l : Layout) : Reader Member := fun cs => do
  let cs ← l.indentation.isPrefixOf? cs
  let (name, cs) ← Naming.readMember cs
  let cs ← (": ".toList).isPrefixOf? cs
  let type := before '\n' cs
  return (⟨name, String.ofList (type.take (type.length - l.terminator.length))⟩,
    behind '\n' cs)

/-- A member that does not break a line. -/
structure Unbroken (m : Member) : Prop where
  name : '\n' ∉ m.name.toList
  type : '\n' ∉ m.type.toList

instance (m : Member) : Decidable m.Unbroken :=
  decidable_of_iff ('\n' ∉ m.name.toList ∧ '\n' ∉ m.type.toList)
    ⟨fun h => ⟨h.1, h.2⟩, fun h => ⟨h.name, h.type⟩⟩

variable {l : Layout}

/-- **A member is read.** -/
theorem Unbroken.reads {m : Member} (h : m.Unbroken) (hl : l.Plain) :
    (Member.read l).Reads (m.line.chars l) m := by
  intro rest
  have hline : m.line.chars l ++ rest
      = l.indentation ++ ((Naming.member m.name).toList ++ ':' ::
          ([' '] ++ ((m.type.toList ++ l.terminator) ++ '\n' :: rest))) := by
    simp [Line.chars, Member.line]
  have hcolon : (": ".toList).isPrefixOf?
      (':' :: ([' '] ++ ((m.type.toList ++ l.terminator) ++ '\n' :: rest)))
      = some ((m.type.toList ++ l.terminator) ++ '\n' :: rest) :=
    isPrefixOf?_append ": ".toList _
  have hbreak : '\n' ∉ m.type.toList ++ l.terminator := by
    rw [List.mem_append, not_or]
    exact ⟨h.type, hl.terminator⟩
  have htype : (m.type.toList ++ l.terminator).take
      ((m.type.toList ++ l.terminator).length - l.terminator.length) = m.type.toList := by
    rw [List.length_append, Nat.add_sub_cancel, List.take_left]
  unfold Member.read
  rw [hline, isPrefixOf?_append]
  show (Naming.readMember (_ ++ ':' :: _)).bind _ = _
  rw [Naming.readMember_append h.name, Option.bind_some]
  dsimp only
  rw [hcolon]
  show some (Member.mk m.name _, behind '\n' ((m.type.toList ++ l.terminator) ++ '\n' :: rest)) = _
  rw [before_append hbreak, behind_append hbreak, htype, String.ofList_toList]

/-- The end of a declaration is no member: it does not begin with an indentation. -/
theorem read_closing (hl : l.Plain) (rest : List Char) :
    Member.read l (Block.closing.chars l ++ rest) = none := by
  obtain ⟨c, cs, hindentation, hc⟩ := hl.begins
  have hbrace : c ≠ '\x7d' := by
    rcases hc with rfl | rfl <;> decide
  have hnone : l.indentation.isPrefixOf? (Block.closing.chars l ++ rest) = none := by
    rw [hindentation]
    exact isPrefixOf?_cons_of_ne hbrace cs _
  unfold Member.read
  rw [hnone]
  rfl

end Member

end CollectionTypes
