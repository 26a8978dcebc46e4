import CollectionTypes.Proofs.Document.Reading
import CollectionTypes.Proofs.Document.Reference
import CollectionTypes.Proofs.Text.Quotation

/-!
# Property names

The language that documents are written in has names of properties of its own:
an identifier, which names itself, and a quotation on one line, which names what
it stands for (`IsPropertyNameFor`). `PropertyName.read` reads one off the front of
a text.

A member is written under a property name for its own name exactly if that does
not break a line (`Naming.member_isPropertyName_iff`). Otherwise the line break is
either at the end of an identifier, where it stays behind, or it stands in a
quotation and ends it.

The key in a reference to an item stands between apostrophes as it is. It names
the property that a member of that name is exactly if there is nothing in it to be
escaped (`Link.reference_names_key_iff`).
-/

namespace CollectionTypes

open Text

/-! ## Names of properties -/

/-- **What names a property** in a document. -/
inductive IsPropertyNameFor (name : List Char) : List Char → Prop where
  /-- An identifier names itself. -/
  | identifier (h : Naming.isIdentifier name = true) : IsPropertyNameFor name name
  /-- A quotation names what it stands for. -/
  | quotation {body : List Char} (hline : Quotation.OnOneLine body)
      (hread : Quotation.read (body ++ ['\'']) = some (units name, [])) :
      IsPropertyNameFor name ('\'' :: body ++ ['\''])

namespace IsPropertyNameFor

variable {name written body : List Char}

theorem of_not_quoted (h : IsPropertyNameFor name written) (hhead : written.head? ≠ some '\'') :
    Naming.isIdentifier written = true ∧ name = written := by
  cases h with
  | identifier h => exact ⟨h, rfl⟩
  | quotation => exact absurd rfl hhead

theorem read_of_quoted (h : IsPropertyNameFor name ('\'' :: body ++ ['\''])) :
    Quotation.read (body ++ ['\'']) = some (units name, []) := by
  generalize hwritten : '\'' :: body ++ ['\''] = written at h
  cases h with
  | identifier h =>
    rw [← hwritten] at h
    cases h
  | quotation hline hread =>
    rw [List.append_cancel_right (List.cons.inj hwritten).2]
    exact hread

end IsPropertyNameFor

namespace PropertyName

/-- **A property name**, up to the end of the identifier or of the quotation. -/
def read : Reader (List Nat)
  | [] => none
  | c :: cs =>
    if c = '\'' then Quotation.read cs
    else if Naming.beginsIdentifier c then
      some (units ((c :: cs).takeWhile Naming.continuesIdentifier),
        (c :: cs).dropWhile Naming.continuesIdentifier)
    else none

theorem read_quotation (cs : List Char) : read ('\'' :: cs) = Quotation.read cs := by
  rw [read, if_pos rfl]

end PropertyName

/-! ## Identifiers -/

namespace Naming

theorem all_continuesIdentifier {cs : List Char} (h : isIdentifier cs = true) :
    ∀ c ∈ cs, continuesIdentifier c = true := by
  cases cs with
  | nil => cases h
  | cons c cs =>
    obtain ⟨hc, hcs⟩ := Bool.and_eq_true_iff.mp h
    exact List.forall_mem_cons.mpr ⟨continuesIdentifier_of_begins hc, List.all_eq_true.mp hcs⟩

/-- No line breaks in an identifier. -/
theorem onOneLine_of_isIdentifier {cs : List Char} (h : isIdentifier cs = true) :
    Quotation.OnOneLine cs := by
  rintro c hc (rfl | rfl) <;> exact absurd (all_continuesIdentifier h _ hc) (by decide)

theorem standsBare_of_isIdentifier {cs : List Char} (h : isIdentifier cs = true) :
    standsBare cs = true := by
  have hlast : ¬ cs.getLast? = some '\n' := fun hlast =>
    onOneLine_of_isIdentifier h _ (List.mem_of_getLast? hlast) (.inl rfl)
  rwa [standsBare, chomp, if_neg hlast]

/-- What stands bare is an identifier, but perhaps for a line break behind it. -/
theorem isIdentifier_or_of_standsBare {cs : List Char} (h : standsBare cs = true) :
    isIdentifier cs = true ∨ cs = chomp cs ++ ['\n'] := by
  by_cases hlast : cs.getLast? = some '\n'
  · refine .inr ?_
    rw [chomp, if_pos hlast]
    exact (List.dropLast_append_getLast? _ hlast).symm
  · rw [standsBare, chomp, if_neg hlast] at h
    exact .inl h

/-- What stands bare does not begin as a quotation does. -/
theorem head?_ne_of_standsBare {cs : List Char} (h : standsBare cs = true) :
    cs.head? ≠ some '\'' := by
  intro hhead
  have hbegins : chomp cs <+: cs := by
    unfold chomp
    split
    · exact List.dropLast_prefix cs
    · exact List.prefix_rfl
  obtain ⟨behind, hcs⟩ := hbegins
  unfold standsBare at h
  cases hchomp : chomp cs with
  | nil =>
    rw [hchomp] at h
    cases h
  | cons d ds =>
    rw [hchomp] at h hcs
    rw [← hcs] at hhead
    cases hhead
    cases h

/-- **An identifier is read**, up to what does not go on with it. -/
theorem read_isIdentifier {cs : List Char} (h : isIdentifier cs = true) {d : Char}
    (hd : continuesIdentifier d = false) (rest : List Char) :
    PropertyName.read (cs ++ d :: rest) = some (units cs, d :: rest) := by
  have hall := all_continuesIdentifier h
  have hd : ¬ continuesIdentifier d = true := Bool.eq_false_iff.mp hd
  cases cs with
  | nil => cases h
  | cons c cs =>
    have hc : c ≠ '\'' := by
      rintro rfl
      exact absurd (hall _ List.mem_cons_self) (by decide)
    rw [List.cons_append, PropertyName.read, if_neg hc, if_pos (Bool.and_eq_true_iff.mp h).1,
      ← List.cons_append, List.takeWhile_append_of_pos hall, List.takeWhile_cons_of_neg hd,
      List.dropWhile_append_of_pos hall, List.dropWhile_cons_of_neg hd, List.append_nil]

/-! ## Members under their names -/

/-- Escapes break no line. -/
theorem onOneLine_escaped {cs : List Char} (h : Quotation.OnOneLine cs) :
    Quotation.OnOneLine (cs.flatMap escapedChar) := by
  intro c hc
  obtain ⟨d, hd, hc⟩ := List.mem_flatMap.mp hc
  unfold escapedChar at hc
  split at hc
  · rcases List.mem_cons.mp hc with rfl | hc
    · decide
    · exact List.mem_singleton.mp hc ▸ h d hd
  · exact List.mem_singleton.mp hc ▸ h d hd

theorem memberChars_of_not_standsBare {cs : List Char} (h : ¬ standsBare cs = true) :
    memberChars cs = '\'' :: cs.flatMap escapedChar ++ ['\''] := by
  rw [memberChars, if_neg h]

theorem memberChars_injective : Function.Injective memberChars := by
  intro cs ds h
  by_cases hbare : standsBare cs = true
  · rw [memberChars_of_standsBare hbare] at h
    by_cases hother : standsBare ds = true
    · rwa [memberChars_of_standsBare hother] at h
    · rw [memberChars_of_not_standsBare hother] at h
      exact absurd (h ▸ rfl) (head?_ne_of_standsBare hbare)
  · rw [memberChars_of_not_standsBare hbare] at h
    by_cases hother : standsBare ds = true
    · rw [memberChars_of_standsBare hother] at h
      exact absurd (h ▸ rfl) (head?_ne_of_standsBare hother)
    · rw [memberChars_of_not_standsBare hother] at h
      have hquoted : cs.flatMap escapedChar ++ ['\''] = ds.flatMap escapedChar ++ ['\''] :=
        (List.cons.inj h).2
      have hread := congrArg (readQuoted false) hquoted
      rw [readQuoted_append, readQuoted_append] at hread
      exact congrArg Prod.fst (Option.some.inj hread)

/-- **A member name is written in one way only.** -/
theorem member_injective : Function.Injective member := by
  intro name other h
  rw [← String.toList_inj]
  refine memberChars_injective ?_
  rw [← toList_member, ← toList_member, h]

/-- **What a member is written under** is a property name for its own name, if for
any. -/
theorem isPropertyNameFor_memberChars {cs name : List Char} :
    IsPropertyNameFor name (memberChars cs) ↔ name = cs ∧ Quotation.OnOneLine cs := by
  by_cases hbare : standsBare cs = true
  · rw [memberChars_of_standsBare hbare]
    constructor
    · intro h
      obtain ⟨hidentifier, rfl⟩ := h.of_not_quoted (head?_ne_of_standsBare hbare)
      exact ⟨rfl, onOneLine_of_isIdentifier hidentifier⟩
    · rintro ⟨rfl, hline⟩
      exact .identifier (isIdentifier_of_standsBare (fun h => hline _ h (.inl rfl)) hbare)
  · rw [memberChars_of_not_standsBare hbare]
    constructor
    · intro h
      have hread := h.read_of_quoted
      by_cases hline : Quotation.OnOneLine cs
      · rw [Quotation.read_escaped hline] at hread
        exact ⟨(units_injective (congrArg Prod.fst (Option.some.inj hread))).symm, hline⟩
      · rw [Quotation.read_escaped_of_broken hline] at hread
        cases hread
    · rintro ⟨rfl, hline⟩
      exact .quotation (onOneLine_escaped hline) (Quotation.read_escaped hline [])

/-- **What is read off the front of a member.** -/
theorem read_memberChars (cs rest : List Char) :
    PropertyName.read (memberChars cs ++ ':' :: rest)
      = if Quotation.OnOneLine cs then some (units cs, ':' :: rest)
        else if standsBare cs = true then some (units (chomp cs), '\n' :: ':' :: rest)
        else none := by
  by_cases hbare : standsBare cs = true
  · rw [memberChars_of_standsBare hbare, if_pos hbare]
    rcases isIdentifier_or_of_standsBare hbare with hidentifier | hchomp
    · rw [if_pos (onOneLine_of_isIdentifier hidentifier)]
      exact read_isIdentifier hidentifier (by decide) rest
    · have hbroken : ¬ Quotation.OnOneLine cs := fun hline =>
        hline '\n' (hchomp ▸ List.mem_append_right _ List.mem_cons_self) (.inl rfl)
      rw [if_neg hbroken]
      conv_lhs => rw [hchomp, List.append_assoc, List.singleton_append]
      exact read_isIdentifier hbare (by decide) _
  · have hquoted : memberChars cs ++ ':' :: rest
        = '\'' :: (cs.flatMap escapedChar ++ '\'' :: ':' :: rest) := by
      rw [memberChars_of_not_standsBare hbare]
      simp
    rw [hquoted, PropertyName.read_quotation, if_neg hbare]
    split
    · next hline => exact Quotation.read_escaped hline _
    · next hline => exact Quotation.read_escaped_of_broken hline _

/-- **A member is written under a property name** for its own name, and for no other,
exactly if that does not break a line; then that name is read back, up to the
colon. A line break behind an identifier is left where it is, and one anywhere else
makes the name unreadable. -/
theorem member_isPropertyName_iff (s : String) :
    (isIdentifier s.toList = true → member s = s)
      ∧ (∀ name, IsPropertyNameFor name (member s).toList
          ↔ name = s.toList ∧ Quotation.OnOneLine s.toList)
      ∧ ∀ rest, PropertyName.read ((member s).toList ++ ':' :: ' ' :: rest)
          = if Quotation.OnOneLine s.toList then some (units s.toList, ':' :: ' ' :: rest)
            else if standsBare s.toList = true then
              some (units (chomp s.toList), '\n' :: ':' :: ' ' :: rest)
            else none := by
  rw [toList_member]
  refine ⟨fun h => ?_, fun name => isPropertyNameFor_memberChars, fun rest => ?_⟩
  · rw [member, memberChars_of_standsBare (standsBare_of_isIdentifier h), String.ofList_toList]
  · exact read_memberChars s.toList (' ' :: rest)

/-- A name with an apostrophe in it is read back. -/
theorem apostrophe_is_read_back :
    Quotation.OnOneLine "it's".toList
      ∧ IsPropertyNameFor "it's".toList (member "it's").toList
      ∧ PropertyName.read ((member "it's").toList ++ ": string".toList)
          = some (units "it's".toList, ": string".toList) := by
  have hline : Quotation.OnOneLine "it's".toList := by decide
  obtain ⟨-, hnames, hread⟩ := member_isPropertyName_iff "it's"
  have hread := hread "string".toList
  rw [if_pos hline] at hread
  exact ⟨hline, (hnames _).mpr ⟨rfl, hline⟩, hread⟩

/-- **A line break behind an identifier** stands bare with it: this is no property
name at all, and reading one stops in front of the line break. -/
theorem broken_identifier_stands_bare :
    (¬ ∃ name, IsPropertyNameFor name (member "a\n").toList)
      ∧ PropertyName.read ((member "a\n").toList ++ ": string".toList)
          = some (units "a".toList, "\n: string".toList) := by
  have hwritten : (member "a\n").toList = ['a', '\n'] := by decide +kernel
  rw [hwritten]
  constructor
  · rintro ⟨name, h⟩
    exact absurd (h.of_not_quoted (by decide)).1 (by decide)
  · decide +kernel

end Naming

/-! ## The keys of references -/

namespace TypeExpr

/-- What stands behind the key in a reference to an item. -/
def behindKey (typeName : String) : List Char :=
  "] | Partial<".toList ++ typeName.toList ++ ['>']

/-- The key in a reference stands between apostrophes as it is. -/
theorem referenceChars_eq (typeName key : String) :
    referenceChars typeName.toList key.toList
      = typeName.toList ++ '[' :: ('\'' :: key.toList ++ '\'' :: behindKey typeName) := by
  have hbefore : "['".toList = ['[', '\''] := rfl
  have hbehind : "'] | Partial<".toList = '\'' :: "] | Partial<".toList := rfl
  unfold referenceChars behindKey
  rw [hbefore, hbehind]
  simp only [List.append_assoc, List.cons_append, List.nil_append]

end TypeExpr

namespace Link

variable {s : Settings} {l : Link} {related key : String}

/-- **A reference goes through**, and it is written with its key as it is. -/
theorem exists_reference (hrelated : l.related = .text related) (hkey : l.foreignKey = .text key) :
    ∃ t, l.reference s = .ok t
      ∧ t.expr.text.toList = (targetName s related).toList ++ '[' ::
          ('\'' :: key.toList ++ '\'' :: TypeExpr.behindKey (targetName s related)) := by
  refine ⟨⟨.reference (targetName s related) key,
    if Naming.isMarked s.systemPrefix related then some (targetName s related) else none⟩, ?_, ?_⟩
  · rw [reference, hrelated, target_text, hkey]
    rfl
  · rw [TypeExpr.toList_text]
    exact TypeExpr.referenceChars_eq _ _

/-- A key between apostrophes and the member of that name are read as the same property,
exactly if there is nothing in the key to be escaped. -/
theorem same_property_iff (cs behind : List Char) :
    (∃ us, PropertyName.read ('\'' :: cs ++ '\'' :: behind) = some (us, behind)
        ∧ ∀ rest, PropertyName.read (Naming.memberChars cs ++ ':' :: rest)
            = some (us, ':' :: rest))
      ↔ Quotation.IsPlain cs := by
  rw [List.cons_append, PropertyName.read_quotation]
  constructor
  · rintro ⟨us, hindex, hmember⟩
    have hread := hmember []
    rw [Naming.read_memberChars] at hread
    split at hread
    · cases hread
      exact Quotation.read_bare_iff.mp hindex
    · split at hread <;> cases hread
  · intro h
    refine ⟨units cs, Quotation.read_bare_iff.mpr h, fun rest => ?_⟩
    rw [Naming.read_memberChars, if_pos h.onOneLine]

/-- **The key in a reference is the key of the link** exactly if there is nothing in it
to be escaped, and only then is it the property that the member of that name is. -/
theorem reference_names_key_iff (hl : l.isResolved = true) (hkey : l.foreignKey = .text key) :
    ((∃ t, l.reference s = .ok t) ↔ ∃ related, l.related = .text related)
      ∧ ∀ related, l.related = .text related →
        ∃ t index behind, l.reference s = .ok t
          ∧ t.expr.text.toList = (targetName s related).toList ++ '[' :: index
          ∧ behind = TypeExpr.behindKey (targetName s related)
          ∧ (PropertyName.read index = some (units key.toList, behind)
              ↔ Quotation.IsPlain key.toList)
          ∧ ((∃ us, PropertyName.read index = some (us, behind)
                ∧ ∀ rest, PropertyName.read ((Naming.member key).toList ++ ':' :: rest)
                    = some (us, ':' :: rest))
              ↔ Quotation.IsPlain key.toList) := by
  refine ⟨⟨?_, ?_⟩, fun related hrelated => ?_⟩
  · rintro ⟨t, ht⟩
    obtain ⟨related, hrelated, -⟩ := (reference_ok_iff hl).mp ht
    exact ⟨related, hrelated⟩
  · rintro ⟨related, hrelated⟩
    obtain ⟨t, ht, -⟩ := exists_reference hrelated hkey
    exact ⟨t, ht⟩
  · obtain ⟨t, ht, htext⟩ := exists_reference hrelated hkey
    refine ⟨t, _, _, ht, htext, rfl, ?_, ?_⟩
    · exact Quotation.read_bare_iff
    · rw [Naming.toList_member]
      exact same_property_iff key.toList _

/-- A key with a hyphen is the key of its link. -/
theorem hyphenated_key_is_named :
    ∃ t index behind, reference {} ⟨.one, .text "posts", .text "author-id"⟩ = .ok t
      ∧ t.expr.text.toList = "Post".toList ++ '[' :: index
      ∧ PropertyName.read index = some (units "author-id".toList, behind) := by
  have hresolved : Link.isResolved ⟨.one, .text "posts", .text "author-id"⟩ = true := by decide
  obtain ⟨t, index, behind, ht, htext, -, hread, -⟩ :=
    (reference_names_key_iff (s := {}) hresolved rfl).2 "posts" rfl
  exact ⟨t, index, behind, ht, htext, hread.mpr (by decide)⟩

/-- **An apostrophe in a key** ends it too early. -/
theorem apostrophe_ends_key :
    ∃ t index, reference {} ⟨.one, .text "posts", .text "it's"⟩ = .ok t
      ∧ t.expr.text.toList = "Post".toList ++ '[' :: index
      ∧ PropertyName.read index = some (units "it".toList, "s'] | Partial<Post>".toList) := by
  obtain ⟨t, ht, htext⟩ :=
    exists_reference (s := {}) (l := ⟨.one, .text "posts", .text "it's"⟩) rfl rfl
  refine ⟨t, _, ht, htext, ?_⟩
  show Quotation.read ("it".toList ++ _) = _
  exact Quotation.read_bare_iff.mpr (by decide)

end Link

end CollectionTypes
