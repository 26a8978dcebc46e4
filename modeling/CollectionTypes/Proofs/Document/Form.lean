import CollectionTypes.Proofs.Document.Reference
import CollectionTypes.Proofs.Document.Textual
import CollectionTypes.Proofs.Text.Words

/-!
# What the type of a member tells of its field

The type of a member that is no primary key tells two things of its field: whether it may
be empty, and its *form* (`MemberForm`). A form is a type of a kind, or nothing known of
one item or of many, or a reference to the other side of a link by its key. What is written
has the form in it as a whole (`MemberForm.text_inj`). A key may hold anything, but a type
name holds no space; so the last space of a reference is in front of the type name that
closes it, and what is left between the two is the key (`TypeExpr.itemText_inj`).

The type of all keys is none of these, so it tells the primary key from every other field
(`types_tell_fields_apart`).
-/

namespace CollectionTypes

open Outcome

/-! ## Forms -/

/-- A type that kinds of fields have. -/
inductive Primitive where
  | number
  | boolean
  | string
  deriving DecidableEq, Repr

/-- The name of a type. -/
def Primitive.name : Primitive → String
  | number => "number"
  | boolean => "boolean"
  | string => "string"

/-- **The form of a member** that is no primary key. -/
inductive MemberForm where
  /-- The type of a kind. -/
  | primitive (p : Primitive)
  /-- Nothing is known. -/
  | untyped
  /-- Nothing is known of many items. -/
  | untypedArray
  /-- One item or many of the type of the other side, by a key. -/
  | reference (direction : Direction) (typeName key : String)
  deriving DecidableEq, Repr

/-- The form of a field without a link. -/
def FieldType.form : FieldType → MemberForm
  | integer | decimal => .primitive .number
  | boolean => .primitive .boolean
  | string => .primitive .string
  | json | unknown => .untyped

/-- The form of a field with a link. -/
def Link.form (s : Settings) (l : Link) : MemberForm :=
  if l.isResolved then .reference l.direction (targetName s l.related.shown) l.foreignKey.shown
  else
    match l.direction with
    | .one => .untyped
    | .many => .untypedArray

/-- **The form of a field.** -/
def Field.form (s : Settings) (f : Field) : MemberForm :=
  match f.relation with
  | none => f.type.form
  | some l => l.form s

/-- **How a form is written.** -/
def MemberForm.text : MemberForm → String
  | primitive p => p.name
  | untyped => "unknown"
  | untypedArray => "unknown[]"
  | reference .one typeName key => TypeExpr.itemText typeName key
  | reference .many typeName key => "(" ++ TypeExpr.itemText typeName key ++ ")[]"

theorem FieldType.text_form (type : FieldType) : type.form.text = type.expr.text := by
  cases type <;> decide

/-- A link is written in its form. -/
theorem Link.text_form {s : Settings} {l : Link} {t : MemberType} (h : l.memberType s = .ok t) :
    t.expr.text = (l.form s).text := by
  unfold memberType at h
  unfold form
  split at h
  · next hl =>
    rw [if_pos hl]
    cases hd : l.direction with
    | one =>
      rw [hd] at h
      obtain ⟨name, hname, rfl⟩ := (reference_ok_iff hl).mp h
      rw [hname]
      exact TypeExpr.text_reference _ _
    | many =>
      rw [hd] at h
      obtain ⟨item, hitem, rfl⟩ := map_ok_iff.mp h
      obtain ⟨name, hname, rfl⟩ := (reference_ok_iff hl).mp hitem
      rw [hname]
      exact TypeExpr.text_array_reference _ _
  · next hl =>
    rw [if_neg hl]
    cases hd : l.direction with
    | one =>
      rw [hd] at h
      cases h
      decide
    | many =>
      rw [hd] at h
      cases h
      decide

/-- **A member is written in the form of its field**, and then that it may be empty. -/
theorem Field.text_form {s : Settings} {primary : Value} {f : Field} {t : MemberType}
    (hkey : f.name.means primary = false) (h : f.memberType s primary = .ok t) :
    t.expr.text = (f.form s).text ++ if f.nullable then " | null" else "" := by
  have horNull : ∀ u : MemberType, (u.orNull f.nullable).expr.text
      = u.expr.text ++ if f.nullable then " | null" else "" := by
    intro u
    rw [MemberType.text_orNull]
    cases f.nullable with
    | true => rfl
    | false => exact String.append_empty.symm
  unfold form
  cases hl : f.relation with
  | none =>
    unfold memberType MemberType.ofParts at h
    rw [hkey, hl] at h
    cases h
    rw [horNull, FieldType.text_form]
  | some l =>
    obtain ⟨u, hu, rfl⟩ := exists_memberType_of_link hkey hl h
    rw [horNull, Link.text_form hu]

/-! ## Reading a form off -/

/-- What stands in front of the last mark, and what stands behind it. -/
theorem append_cons_inj_of_last {α : Type} {m : α} {as bs as' bs' : List α}
    (h : as ++ m :: bs = as' ++ m :: bs') (hbs : m ∉ bs) (hbs' : m ∉ bs') :
    as = as' ∧ bs = bs' := by
  rcases List.append_eq_append_iff.mp h with ⟨cs, rfl, hcs⟩ | ⟨cs, rfl, hcs⟩
  · cases cs with
    | nil => exact ⟨(List.append_nil _).symm, (List.cons.inj hcs).2⟩
    | cons c cs =>
      -- the mark would stand among what is behind the other one
      refine absurd ?_ hbs
      rw [(List.cons.inj hcs).2]
      exact List.mem_append_right _ List.mem_cons_self
  · cases cs with
    | nil => exact ⟨List.append_nil _, ((List.cons.inj hcs).2).symm⟩
    | cons c cs =>
      refine absurd ?_ hbs'
      rw [(List.cons.inj hcs).2]
      exact List.mem_append_right _ List.mem_cons_self

namespace TypeExpr

/-- A reference up to its last space, and what is behind it. -/
theorem toList_itemText (typeName key : String) :
    (itemText typeName key).toList
      = (typeName.toList ++ ("['".toList ++ (key.toList ++ "'] |".toList)))
        ++ ' ' :: ("Partial<".toList ++ (typeName.toList ++ ['>'])) := by
  unfold itemText
  simp only [String.toList_append, List.append_assoc]
  rfl

variable {typeName key typeName' key' : String}

/-- **A reference tells its type and its key**, whatever the key is, as type names hold no
space. -/
theorem itemText_inj (hname : ' ' ∉ typeName.toList) (hname' : ' ' ∉ typeName'.toList)
    (h : itemText typeName key = itemText typeName' key') : typeName = typeName' ∧ key = key' := by
  have hclosing : ∀ {name : String}, ' ' ∉ name.toList →
      ' ' ∉ "Partial<".toList ++ (name.toList ++ ['>']) := by
    intro name hname hmem
    rcases List.mem_append.mp hmem with hmem | hmem
    · exact absurd hmem (by decide)
    · rcases List.mem_append.mp hmem with hmem | hmem
      · exact hname hmem
      · exact absurd hmem (by decide)
  rw [← String.toList_inj, toList_itemText, toList_itemText] at h
  obtain ⟨hfront, hback⟩ := append_cons_inj_of_last h (hclosing hname) (hclosing hname')
  have hsame : typeName.toList = typeName'.toList :=
    List.append_cancel_right (List.append_cancel_left hback)
  rw [hsame] at hfront
  refine ⟨String.toList_inj.mp hsame, String.toList_inj.mp ?_⟩
  exact List.append_cancel_right (List.append_cancel_left (List.append_cancel_left hfront))

end TypeExpr

namespace MemberForm

/-- Whether a form is a reference. -/
def isReference : MemberForm → Bool
  | reference .. => true
  | _ => false

/-- The forms that are no references. -/
def plain : List MemberForm :=
  [.primitive .number, .primitive .boolean, .primitive .string, .untyped, .untypedArray]

/-- **A form with a name**: the type name in it, if any, holds no space. -/
def Named : MemberForm → Prop
  | reference _ typeName _ => ' ' ∉ typeName.toList
  | _ => True

variable {a b : MemberForm}

theorem eq_reference (h : a.isReference = true) : ∃ d typeName key, a = .reference d typeName key := by
  cases a with
  | reference d typeName key => exact ⟨d, typeName, key, rfl⟩
  | _ => cases h

theorem mem_plain (h : a.isReference = false) : a ∈ plain := by
  cases a with
  | primitive p => cases p <;> decide
  | untyped => decide
  | untypedArray => decide
  | reference d typeName key => cases h

/-- References are written with spaces, and nothing else is. -/
theorem space_mem_text_iff : ' ' ∈ a.text.toList ↔ a.isReference = true := by
  cases h : a.isReference with
  | false =>
    refine iff_of_false ?_ Bool.false_ne_true
    exact (by decide : ∀ a ∈ plain, ' ' ∉ a.text.toList) a (mem_plain h)
  | true =>
    refine iff_of_true ?_ rfl
    have hitem : ∀ typeName key, ' ' ∈ (TypeExpr.itemText typeName key).toList := fun _ _ => by
      rw [TypeExpr.toList_itemText]
      exact List.mem_append_right _ List.mem_cons_self
    obtain ⟨d, typeName, key, rfl⟩ := eq_reference h
    cases d with
    | one => exact hitem _ _
    | many =>
      show ' ' ∈ ("(" ++ TypeExpr.itemText typeName key ++ ")[]").toList
      simp [String.toList_append, hitem]

/-- References to one item and to many end differently. -/
theorem getLast?_reference (d : Direction) (typeName key : String) :
    (reference d typeName key).text.toList.getLast?
      = some (match d with
        | .one => '>'
        | .many => ']') := by
  cases d with
  | one =>
    show (TypeExpr.itemText typeName key).toList.getLast? = _
    unfold TypeExpr.itemText
    rw [String.toList_append, List.getLast?_append]
    rfl
  | many =>
    show ("(" ++ TypeExpr.itemText typeName key ++ ")[]").toList.getLast? = _
    rw [String.toList_append, List.getLast?_append]
    rfl

/-- **What a form ends in** is the end of its name, a bracket, or what closes a reference. -/
theorem getLast?_text (a : MemberForm) :
    ∃ c ∈ ['r', 'n', 'g', ']', '>'], a.text.toList.getLast? = some c := by
  cases a with
  | primitive p =>
    cases p with
    | number => exact ⟨'r', by decide, by decide⟩
    | boolean => exact ⟨'n', by decide, by decide⟩
    | string => exact ⟨'g', by decide, by decide⟩
  | untyped => exact ⟨'n', by decide, by decide⟩
  | untypedArray => exact ⟨']', by decide, by decide⟩
  | reference d typeName key =>
    exact ⟨_, by cases d <;> decide, getLast?_reference d typeName key⟩

/-- **Forms are told apart by how they are written.** -/
theorem text_inj (ha : a.Named) (hb : b.Named) (h : a.text = b.text) : a = b := by
  have hkind : a.isReference = b.isReference := by
    rw [Bool.eq_iff_iff, ← space_mem_text_iff, ← space_mem_text_iff, h]
  cases hreference : b.isReference with
  | false =>
    exact (by decide : ∀ a ∈ plain, ∀ b ∈ plain, a.text = b.text → a = b) a
      (mem_plain (hkind.trans hreference)) b (mem_plain hreference) h
  | true =>
    obtain ⟨d, typeName, key, rfl⟩ := eq_reference hreference
    obtain ⟨d', typeName', key', rfl⟩ := eq_reference (hkind.trans hreference)
    have hlast := (getLast?_reference d' typeName' key').symm.trans
      (h ▸ getLast?_reference d typeName key)
    have hitem : d' = d ∧ TypeExpr.itemText typeName' key' = TypeExpr.itemText typeName key := by
      cases d <;> cases d'
      · exact ⟨rfl, h⟩
      · cases hlast
      · cases hlast
      · refine ⟨rfl, String.toList_inj.mp ?_⟩
        have hchars := congrArg String.toList h
        simp only [text, String.toList_append, List.append_cancel_left_eq,
          List.append_cancel_right_eq] at hchars
        exact hchars
    obtain ⟨rfl, rfl⟩ := TypeExpr.itemText_inj ha hb hitem.2
    rw [hitem.1]

end MemberForm

/-! ## Fields told apart -/

/-- Type names hold no space, whatever the collection is called. -/
theorem Link.space_notMem_targetName (s : Settings) (name : String) :
    ' ' ∉ (targetName s name).toList := by
  intro hmem
  have hsep : Naming.isSeparator ' ' = false := by
    unfold targetName at hmem
    split at hmem <;> exact Naming.not_isSeparator_of_mem_typeName hmem
  exact absurd hsep (by decide)

theorem Field.named_form (s : Settings) (f : Field) : (f.form s).Named := by
  unfold form
  cases f.relation with
  | none =>
    unfold FieldType.form
    cases f.type <;> exact trivial
  | some l =>
    show (l.form s).Named
    unfold Link.form
    split
    · exact Link.space_notMem_targetName s _
    · cases l.direction <;> exact trivial

variable {s : Settings} {primary primary' : Value} {f g : Field} {t u : MemberType}

/-- What the type of a field ends in that is no primary key. -/
theorem Field.getLast?_memberType (hkey : f.name.means primary = false)
    (h : f.memberType s primary = .ok t) :
    ∃ c ∈ ['l', 'r', 'n', 'g', ']', '>'], t.expr.text.toList.getLast? = some c := by
  rw [text_form hkey h, String.toList_append]
  cases f.nullable with
  | true =>
    refine ⟨'l', List.mem_cons_self, ?_⟩
    rw [List.getLast?_append]
    rfl
  | false =>
    obtain ⟨c, hc, hlast⟩ := (f.form s).getLast?_text
    refine ⟨c, List.mem_cons_of_mem _ hc, ?_⟩
    rw [← hlast]
    exact congrArg List.getLast? (List.append_nil _)

/-- **A type ends in null** exactly if the field may be empty. -/
theorem Field.null_suffix_iff (hkey : f.name.means primary = false)
    (h : f.memberType s primary = .ok t) :
    " | null".toList <:+ t.expr.text.toList ↔ f.nullable = true := by
  rw [text_form hkey h, String.toList_append]
  cases f.nullable with
  | true => exact iff_of_true (List.suffix_append _ _) rfl
  | false =>
    refine iff_of_false ?_ Bool.false_ne_true
    show ¬ " | null".toList <:+ (f.form s).text.toList ++ []
    rw [List.append_nil]
    rintro ⟨front, hfront⟩
    obtain ⟨c, hc, hlast⟩ := (f.form s).getLast?_text
    rw [← hfront, List.getLast?_append] at hlast
    obtain rfl : 'l' = c := Option.some.inj hlast
    exact absurd hc (by decide)

/-- **Types tell forms apart**: the same is written for two fields that are no primary keys
exactly if they have the same form, and both may be empty or neither. -/
theorem Field.text_eq_iff (hf : f.name.means primary = false) (hg : g.name.means primary' = false)
    (ht : f.memberType s primary = .ok t) (hu : g.memberType s primary' = .ok u) :
    t.expr.text = u.expr.text ↔ f.nullable = g.nullable ∧ f.form s = g.form s := by
  constructor
  · intro h
    have hnull : f.nullable = g.nullable := by
      rw [Bool.eq_iff_iff, ← null_suffix_iff hf ht, ← null_suffix_iff hg hu, h]
    rw [text_form hf ht, text_form hg hu, hnull] at h
    have hchars := congrArg String.toList h
    rw [String.toList_append, String.toList_append] at hchars
    have htext := String.toList_inj.mp (List.append_cancel_right hchars)
    exact ⟨hnull, MemberForm.text_inj (named_form s f) (named_form s g) htext⟩
  · rintro ⟨hnull, hform⟩
    rw [text_form hf ht, text_form hg hu, hnull, hform]

/-- Only a primary key has the type of all keys, if that goes by its default name. -/
theorem Field.key_text_iff (hdefault : s.primaryKeyType = "PrimaryKey") (f : Field)
    (primary : Value) :
    (∃ t, f.memberType s primary = .ok t ∧ t.expr.text = "PrimaryKey")
      ↔ f.name.means primary = true := by
  cases hkey : f.name.means primary with
  | true =>
    refine iff_of_true ⟨MemberType.key s, ?_, ?_⟩ rfl
    · rw [memberType, hkey]
      rfl
    · rw [MemberType.key, hdefault]
      decide
  | false =>
    refine iff_of_false ?_ Bool.false_ne_true
    rintro ⟨t, ht, htext⟩
    obtain ⟨c, hc, hlast⟩ := getLast?_memberType hkey ht
    rw [htext] at hlast
    obtain rfl : 'y' = c := Option.some.inj hlast
    exact absurd hc (by decide)

/-- **The types of members tell fields apart.** If the same is written for two fields that are
no primary keys, then both may be empty or neither, and they have the same form: the same kind,
nothing known of one item or of many, or a link in the same direction to the same type by
the same key. A type ends in null exactly if the field may be empty. And where the
type of all keys goes by its default name, it is written for the primary keys alone. -/
theorem types_tell_fields_apart (s : Settings) :
    (∀ (f g : Field) (primary primary' : Value) (t u : MemberType),
      f.name.means primary = false → g.name.means primary' = false →
      f.memberType s primary = .ok t → g.memberType s primary' = .ok u →
      (t.expr.text = u.expr.text ↔ f.nullable = g.nullable ∧ f.form s = g.form s))
    ∧ (∀ (f : Field) (primary : Value) (t : MemberType),
      f.name.means primary = false → f.memberType s primary = .ok t →
      (" | null".toList <:+ t.expr.text.toList ↔ f.nullable = true))
    ∧ (s.primaryKeyType = "PrimaryKey" → ∀ (f : Field) (primary : Value),
      (∃ t, f.memberType s primary = .ok t ∧ t.expr.text = "PrimaryKey")
        ↔ f.name.means primary = true) :=
  ⟨fun _ _ _ _ _ _ hf hg ht hu => Field.text_eq_iff hf hg ht hu,
    fun _ _ _ hkey h => Field.null_suffix_iff hkey h,
    fun hdefault f primary => Field.key_text_iff hdefault f primary⟩

/-- A field that may be empty, with a link by a key that has an apostrophe in it. -/
def quotedField (name : String) (type : FieldType) (related : String) : Field where
  name := .text name
  type := type
  nullable := true
  relation := some ⟨.one, .text related, .text "it's"⟩

/-- The types of two collections are called the same here, so the same is written for a
link to either, and that it may be empty. -/
theorem quoted_fields_agree :
    ∃ t u, (quotedField "author" .integer "posts").memberType {} (.text "id") = .ok t
      ∧ (quotedField "editor" .string "post").memberType {} (.text "id") = .ok u
      ∧ t.expr.text = u.expr.text
      ∧ " | null".toList <:+ t.expr.text.toList
      ∧ ∃ k, (quotedField "id" .json "posts").memberType {} (.text "id") = .ok k
        ∧ k.expr.text = "PrimaryKey" := by
  obtain ⟨hsame, hnull, hkey⟩ := types_tell_fields_apart {}
  have htyped : ∀ name type related, ∃ t,
      (quotedField name type related).memberType {} (.text "id") = .ok t :=
    fun name type related => Field.Textual.exists_memberType
      ⟨rfl, by rintro l hl; cases hl; exact ⟨some related, rfl⟩⟩ {} _
  have hmeans : ∀ name type related, (quotedField name type related).name.means (.text "id")
      = decide (name = "id") := fun name _ _ => Name.means_text name "id"
  have hform : (quotedField "author" .integer "posts").form {}
      = (quotedField "editor" .string "post").form {} := by decide +kernel
  obtain ⟨t, ht⟩ := htyped "author" .integer "posts"
  obtain ⟨u, hu⟩ := htyped "editor" .string "post"
  exact ⟨t, u, ht, hu,
    (hsame _ _ _ _ t u (hmeans ..) (hmeans ..) ht hu).mpr ⟨rfl, hform⟩,
    (hnull _ _ t (hmeans ..) ht).mpr rfl, (hkey rfl _ _).mpr (hmeans ..)⟩

end CollectionTypes
