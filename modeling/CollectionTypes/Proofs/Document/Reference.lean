import CollectionTypes.Document.MemberType
import CollectionTypes.Proofs.Outcome

/-!
# What a member refers to

A member refers to types by their names: a member with a link to the type of
the collection on the other side, a primary key to the type of all keys. The
type of a link is named in one way, whether or not there is such a collection
(`Link.target_text`): by the name of the collection, without the mark if it
carries one. The member is one item of that type, or many
(`Link.writesItem_of_memberType`).
-/

namespace CollectionTypes

open Outcome

namespace Naming

theorem unmarked_of_isMarked_eq_false {mark name : String} (h : isMarked mark name = false) :
    unmarked mark name = name := by
  unfold isMarked at h
  unfold unmarked
  rcases Bool.and_eq_false_iff.mp h with hmark | hstart
  · have hempty : mark = "" := by
      by_contra hne
      exact Bool.false_ne_true (hmark.symm.trans (bne_iff_ne.mpr hne))
    rw [hempty]
    split
    · exact String.ofList_toList
    · rfl
  · rw [hstart]
    rfl

/-- The type name of a text leaves out the mark, if there is one. -/
theorem typeNameOf_text (mark name : String) :
    typeNameOf (.text mark) (.text name) = .ok (unmarkedTypeName mark name) := by
  have hunmarked : unmarkedOf (.text mark) (.text name) = .ok (.text (unmarked mark name)) := by
    unfold unmarkedOf
    rw [isMarkedOf_text]
    show (if isMarked mark name = true then _ else _ : Except Misuse Value) = _
    split
    · rfl
    · next h => rw [unmarked_of_isMarked_eq_false (Bool.eq_false_iff.mpr h)]; rfl
  unfold typeNameOf unmarkedTypeName typeName
  exact bind_ok_iff.mpr ⟨_, hunmarked, bind_ok_iff.mpr ⟨_, singularOf_text _, pascalOf_text _⟩⟩

end Naming

namespace Link

/-- The name of the type of a collection called that. -/
def targetName (s : Settings) (name : String) : String :=
  if Naming.isMarked s.systemPrefix name then Naming.unmarkedTypeName s.systemPrefix name
  else Naming.typeName name

/-- **The other side of a link to a text.** -/
theorem target_text (s : Settings) (name : String) :
    target s (.text name)
      = .ok (targetName s name, Naming.isMarked s.systemPrefix name) := by
  unfold target targetName
  rw [Naming.isMarkedOf_text]
  show (do pure (← Naming.typeNameOf (.text (if Naming.isMarked s.systemPrefix name then
    s.systemPrefix else "")) (.text name), Naming.isMarked s.systemPrefix name)) = _
  rw [Naming.typeNameOf_text]
  cases h : Naming.isMarked s.systemPrefix name with
  | true => rfl
  | false =>
    show Except.ok (Naming.typeName (Naming.unmarked "" name), false) = _
    rw [Naming.unmarked_of_isMarked_eq_false rfl]
    rfl

end Link

/-! ## The types that a member names -/

/-- The types that an expression refers to. -/
def TypeExpr.references : TypeExpr → List String
  | verbatim _ => []
  | reference typeName _ => [typeName]
  | array item => item.references
  | orNull e => e.references

/-- **The types that the type of a member names**: those that it refers to,
and the one of the host's that it needs, be it that of the keys. -/
def MemberType.names (t : MemberType) : List String :=
  t.expr.references ++ t.host.toList

theorem FieldType.references_expr (type : FieldType) : type.expr.references = [] := by
  cases type <;> rfl

@[simp] theorem MemberType.names_orNull (t : MemberType) (nullable : Bool) :
    (t.orNull nullable).names = t.names := by
  cases nullable <;> rfl

@[simp] theorem MemberType.host_orNull (t : MemberType) (nullable : Bool) :
    (t.orNull nullable).host = t.host := by
  cases nullable <;> rfl

namespace Naming

theorem text_of_singularOf {v w : Value} (hv : v.truthy = true) (h : singularOf v = .ok w) :
    ∃ name, v = .text name := by
  unfold singularOf at h
  rw [if_pos hv] at h
  split at h
  · exact ⟨_, rfl⟩
  · cases h

theorem eq_or_text_of_unmarkedOf {mark v w : Value} (h : unmarkedOf mark v = .ok w) :
    w = v ∨ ∃ name, v = .text name := by
  unfold unmarkedOf at h
  obtain ⟨b, -, h⟩ := bind_ok_iff.mp h
  split at h
  · split at h
    · exact .inr ⟨_, rfl⟩
    · exact .inl (Except.ok.inj h).symm
  · exact .inl (Except.ok.inj h).symm

end Naming

namespace Link

variable {s : Settings} {l : Link}

/-- Only a text names the other side of a link. -/
theorem text_of_target {v : Value} {r : String × Bool} (hv : v.truthy = true)
    (h : target s v = .ok r) : ∃ name, v = .text name := by
  obtain ⟨isHost, -, h⟩ := bind_ok_iff.mp h
  obtain ⟨typeName, h, -⟩ := bind_ok_iff.mp h
  obtain ⟨unmarked, hunmarked, h⟩ := bind_ok_iff.mp h
  obtain ⟨singular, hsingular, -⟩ := bind_ok_iff.mp h
  rcases Naming.eq_or_text_of_unmarkedOf hunmarked with rfl | htext
  · exact Naming.text_of_singularOf hv hsingular
  · exact htext

/-- **A reference names one type**, which is the host's if the collection on
the other side is. -/
theorem reference_ok_iff {t : MemberType} (hl : l.isResolved = true) :
    l.reference s = .ok t
      ↔ ∃ name, l.related = .text name
          ∧ t = ⟨.reference (targetName s name) l.foreignKey.shown,
              if Naming.isMarked s.systemPrefix name then some (targetName s name) else none⟩ := by
  unfold reference
  rw [bind_ok_iff]
  constructor
  · rintro ⟨r, htarget, h⟩
    obtain ⟨name, hname⟩ := text_of_target hl htarget
    rw [hname, target_text] at htarget
    cases htarget
    exact ⟨name, hname, (Except.ok.inj h).symm⟩
  · rintro ⟨name, hname, rfl⟩
    exact ⟨_, hname ▸ target_text s name, rfl⟩

/-- A link to a collection of the project names the type of that collection. -/
def NamesProject (s : Settings) (l : Link) (name : String) : Prop :=
  l.isResolved = true ∧ ∃ related, l.related = .text related
    ∧ Naming.isMarked s.systemPrefix related = false ∧ name = Naming.typeName related

theorem mem_names_of_reference {t : MemberType} (hl : l.isResolved = true)
    (h : l.reference s = .ok t) {name : String} (hname : name ∈ t.names) :
    t.host = some name ∨ l.NamesProject s name := by
  obtain ⟨related, hrelated, rfl⟩ := (reference_ok_iff hl).mp h
  -- the type that is referred to is also the only one that is needed
  have hsame : name = targetName s related := by
    rcases List.mem_append.mp hname with hname | hname
    · exact List.mem_singleton.mp hname
    · rw [Option.mem_toList] at hname
      dsimp only at hname
      split at hname
      · exact (Option.some.inj hname).symm
      · cases hname
  cases hmarked : Naming.isMarked s.systemPrefix related with
  | true => exact .inl (congrArg some hsame.symm)
  | false =>
    refine .inr ⟨hl, related, hrelated, hmarked, ?_⟩
    rw [hsame, targetName, hmarked]
    rfl

/-- **What a link names** is the host's own, or the type of a collection of the
project. -/
theorem mem_names_of_memberType {t : MemberType} (h : l.memberType s = .ok t) {name : String}
    (hname : name ∈ t.names) : t.host = some name ∨ l.NamesProject s name := by
  unfold memberType at h
  split at h
  · next hl =>
    cases hd : l.direction with
    | one =>
      rw [hd] at h
      exact mem_names_of_reference hl h hname
    | many =>
      rw [hd] at h
      obtain ⟨item, hitem, rfl⟩ := map_ok_iff.mp h
      exact mem_names_of_reference hl hitem hname
  · cases hd : l.direction <;> rw [hd] at h <;> cases h <;> cases hname

end Link

/-- **What a member names** is imported from the host, or is the type of the
collection of the project that the field has a link to. -/
theorem Field.mem_names_of_memberType {s : Settings} {primary : Value} {f : Field}
    {t : MemberType} (h : f.memberType s primary = .ok t) {name : String}
    (hname : name ∈ t.names) :
    t.host = some name ∨ ∃ l, f.relation = some l ∧ l.NamesProject s name := by
  unfold memberType MemberType.ofParts at h
  split at h
  · cases h
    exact .inl (congrArg some (List.mem_singleton.mp hname).symm)
  · cases hl : f.relation with
    | none =>
      rw [hl] at h
      cases h
      rw [MemberType.names_orNull, MemberType.names, FieldType.references_expr] at hname
      cases hname
    | some l =>
      rw [hl] at h
      obtain ⟨t', ht', rfl⟩ := map_ok_iff.mp h
      rw [MemberType.names_orNull] at hname
      rw [MemberType.host_orNull]
      exact (Link.mem_names_of_memberType ht' hname).imp_right fun h => ⟨l, rfl, h⟩

/-! ## The type of a member with a link -/

namespace TypeExpr

/-- **How an item is referred to** in writing: by its key, or as a part of
it. -/
def itemText (typeName key : String) : String :=
  typeName ++ "['" ++ key ++ "'] | Partial<" ++ typeName ++ ">"

theorem text_reference (typeName key : String) :
    (reference typeName key).text = itemText typeName key := by
  rw [← String.toList_inj, toList_text]
  unfold itemText
  simp only [String.toList_append]
  rfl

/-- Many items are referred to in parentheses, since there are spaces in the
reference. -/
theorem text_array_reference (typeName key : String) :
    (array (reference typeName key)).text = "(" ++ itemText typeName key ++ ")[]" := by
  have hspace : ' ' ∈ (reference typeName key).chars := by
    unfold chars referenceChars
    simp
  rw [← text_reference, ← String.toList_inj, toList_text, chars_array, enclosed, if_pos hspace]
  simp only [String.toList_append, toList_text, List.append_assoc, List.cons_append]
  rfl

theorem text_orNull (e : TypeExpr) : (orNull e).text = e.text ++ " | null" := by
  rw [← String.toList_inj, String.toList_append, toList_text, toList_text, chars_orNull]

end TypeExpr

theorem MemberType.text_orNull (t : MemberType) (nullable : Bool) :
    (t.orNull nullable).expr.text
      = if nullable then t.expr.text ++ " | null" else t.expr.text := by
  cases nullable with
  | false => rfl
  | true => exact TypeExpr.text_orNull t.expr

/-- **What one item of the other side is written as**: as a reference to it, or
as unknown if the other side is. -/
def Link.WritesItem (s : Settings) (l : Link) (item : TypeExpr) : Prop :=
  (l.related.truthy = false ∧ item = .untyped)
    ∨ ∃ name, l.related = .text name ∧ name ≠ ""
        ∧ item = .reference (targetName s name) l.foreignKey.shown

/-- **A member with a link** is one item of the other side, or many. -/
theorem Link.writesItem_of_memberType {s : Settings} {l : Link} {t : MemberType}
    (h : l.memberType s = .ok t) :
    ∃ item, l.WritesItem s item ∧ t.expr = match l.direction with
      | .one => item
      | .many => .array item := by
  unfold memberType at h
  split at h
  · next hl =>
    have hitem : ∀ {item : MemberType}, l.reference s = .ok item → l.WritesItem s item.expr := by
      intro item hreference
      obtain ⟨name, hname, rfl⟩ := (reference_ok_iff hl).mp hreference
      refine .inr ⟨name, hname, ?_, rfl⟩
      unfold isResolved at hl
      rw [hname, Value.truthy_text, bne_iff_ne] at hl
      exact hl
    cases hd : l.direction with
    | one =>
      rw [hd] at h
      exact ⟨t.expr, hitem h, rfl⟩
    | many =>
      rw [hd] at h
      obtain ⟨item, hreference, rfl⟩ := map_ok_iff.mp h
      exact ⟨item.expr, hitem hreference, rfl⟩
  · next hl =>
    refine ⟨.untyped, .inl ⟨Bool.eq_false_iff.mpr hl, rfl⟩, ?_⟩
    cases hd : l.direction <;> rw [hd] at h <;> cases h <;> rfl

/-- A field with a link that is no primary key has the type of the link. -/
theorem Field.exists_memberType_of_link {s : Settings} {primary : Value} {f : Field} {l : Link}
    {t : MemberType} (hkey : f.name.means primary = false) (hl : f.relation = some l)
    (h : f.memberType s primary = .ok t) :
    ∃ t', l.memberType s = .ok t' ∧ t = t'.orNull f.nullable := by
  unfold memberType MemberType.ofParts at h
  rw [hkey, hl] at h
  obtain ⟨t', ht', hsame⟩ := map_ok_iff.mp h
  exact ⟨t', ht', hsame.symm⟩

/-! ## What a member mentions of the host -/

/-- A link to a collection of the host names the type of that collection,
without the mark. -/
def Link.NamesHost (s : Settings) (l : Link) (name : String) : Prop :=
  l.isResolved = true ∧ ∃ related, l.related = .text related
    ∧ Naming.isMarked s.systemPrefix related = true
    ∧ name = Naming.unmarkedTypeName s.systemPrefix related

/-- **A link mentions the host** exactly if it goes to one of its
collections. -/
theorem Link.host_of_memberType_iff {s : Settings} {l : Link} {t : MemberType}
    (h : l.memberType s = .ok t) {name : String} : t.host = some name ↔ l.NamesHost s name := by
  unfold memberType at h
  split at h
  · next hl =>
    have hitem : ∀ {item : MemberType}, l.reference s = .ok item →
        (item.host = some name ↔ l.NamesHost s name) := by
      intro item hreference
      obtain ⟨related, hrelated, rfl⟩ := (reference_ok_iff hl).mp hreference
      unfold targetName
      cases hmarked : Naming.isMarked s.systemPrefix related with
      | true =>
        refine ⟨fun hname => ⟨hl, related, hrelated, hmarked, (Option.some.inj hname).symm⟩, ?_⟩
        rintro ⟨-, related', hrelated', -, rfl⟩
        rw [Value.text.inj (hrelated.symm.trans hrelated')]
        rfl
      | false =>
        refine iff_of_false (fun hname => by cases hname) ?_
        rintro ⟨-, related', hrelated', hmarked', -⟩
        obtain rfl := Value.text.inj (hrelated.symm.trans hrelated')
        rw [hmarked] at hmarked'
        cases hmarked'
    cases hd : l.direction with
    | one =>
      rw [hd] at h
      exact hitem h
    | many =>
      rw [hd] at h
      obtain ⟨item, hreference, rfl⟩ := map_ok_iff.mp h
      exact (hitem hreference :)
  · next hl =>
    have hnone : t.host = none := by cases hd : l.direction <;> rw [hd] at h <;> cases h <;> rfl
    rw [hnone]
    refine iff_of_false (fun hname => by cases hname) ?_
    rintro ⟨hresolved, -⟩
    exact absurd hresolved hl

/-- **A member mentions the host** if its field is the primary key, which has
the type of all keys, or else if the field has a link to a collection of the
host. -/
theorem Field.host_of_memberType_iff {s : Settings} {primary : Value} {f : Field}
    {t : MemberType} (h : f.memberType s primary = .ok t) {name : String} :
    t.host = some name
      ↔ (f.name.means primary = true ∧ name = s.primaryKeyType)
        ∨ (f.name.means primary = false ∧ ∃ l, f.relation = some l ∧ l.NamesHost s name) := by
  cases hkey : f.name.means primary with
  | true =>
    unfold memberType MemberType.ofParts at h
    rw [hkey] at h
    cases h
    rw [or_iff_left (fun hlink => by cases hlink.1)]
    exact ⟨fun hname => ⟨rfl, (Option.some.inj hname).symm⟩, fun hname => congrArg some hname.2.symm⟩
  | false =>
    rw [or_iff_right (fun hpk => by cases hpk.1), and_iff_right rfl]
    cases hl : f.relation with
    | none =>
      unfold memberType MemberType.ofParts at h
      rw [hkey, hl] at h
      cases h
      rw [MemberType.host_orNull]
      refine iff_of_false (fun hname => by cases hname) ?_
      rintro ⟨l, hsome, -⟩
      cases hsome
    | some l =>
      obtain ⟨t', ht', rfl⟩ := exists_memberType_of_link hkey hl h
      rw [MemberType.host_orNull, Link.host_of_memberType_iff ht']
      refine ⟨fun hnames => ⟨l, rfl, hnames⟩, ?_⟩
      rintro ⟨l', hsome, hnames⟩
      rw [Option.some.inj hsome]
      exact hnames

end CollectionTypes
