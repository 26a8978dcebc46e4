import CollectionTypes.Proofs.Arrivals
import CollectionTypes.Proofs.Schema.WellTyped

/-!
# The fields of one collection

Fields are read one after the other, and texts name them, if anything does. The
table of what was read follows the named fields in their order
(`FieldsSoFar.Reads`): there is one field for each name, in the place of its first
occurrence, and the last occurrence describes it. The primary key is the one
that was named beforehand or else the first field marked as such.

One more field keeps this (`FieldsSoFar.Reads.add`), so a run through all of them
ends with it (`Collection.built_ofEntry`). Reading stops only at a named field
whose tag is a list or an object (`Collection.exists_ofEntry_iff`).
-/

namespace CollectionTypes

open Outcome

/-! ## Names that are texts -/

namespace Value

/-- Whether a value is a text or does not count as present, so that a text is the
name that it gives, if it gives one. -/
def namesByText : Value → Bool
  | text _ => true
  | v => !v.truthy

/-- **The text that a value names something by**; an empty one is no name. -/
def naming? : Value → Option String
  | text s => if s = "" then none else some s
  | _ => none

variable {v : Value}

theorem ne_of_naming? {s : String} (h : v.naming? = some s) : s ≠ "" := by
  unfold naming? at h
  split at h
  · split at h
    · cases h
    · next hs => exact Option.some.inj h ▸ hs
  · cases h

theorem naming?_of_not_truthy (h : v.truthy = false) : v.naming? = none := by
  unfold naming?
  split
  · exact if_pos (by simpa using h)
  · rfl

theorem eq_text_of_namesByText (h : v.namesByText = true) (hpresent : v.truthy = true) :
    ∃ s, v = text s ∧ v.naming? = some s := by
  unfold namesByText at h
  split at h
  · next s => exact ⟨s, rfl, if_neg (by simpa using hpresent)⟩
  · simp [hpresent] at h

end Value

/-- The name of a value that names by a text. -/
theorem Name.ofPresent_of_namesByText {v : Value} (h : v.namesByText = true) :
    ofPresent v = .ok (v.naming?.map text) := by
  unfold ofPresent
  by_cases hpresent : v.truthy = true
  · obtain ⟨s, rfl, hs⟩ := Value.eq_text_of_namesByText h hpresent
    rw [if_pos hpresent, hs]
    rfl
  · rw [if_neg hpresent, Value.naming?_of_not_truthy (by simpa using hpresent)]
    rfl

theorem Key.text_injective : Function.Injective Key.text :=
  fun _ _ => Key.text.inj

/-! ## One field -/

namespace RawField

/-- **The fields that have a name**, each with it. -/
def named (raw : List RawField) : List (String × RawField) :=
  raw.filterMap fun r => r.name.naming?.map fun k => (k, r)

/-- **What a field says of itself**: the field that is read off it is all of this. -/
structure Describes (flags : Flags) (owner : Name) (isSystem : Bool) (k : String)
    (r : RawField) (f : Field) : Prop where
  name : f.name = .text k
  rawType : f.rawType = Value.get r.members "type"
  type : FieldType.ofTag f.rawType = .ok f.type
  nullable : f.nullable = r.nullable
  system : f.system = r.system flags owner (.text k) isSystem
  relation : f.relation = none

/-- **A field that can be read**: if it has a name, its tag is no list and no object,
unless it is empty. -/
def TagFits (r : RawField) : Prop :=
  r.name.naming?.isSome → (Value.get r.members "type").truthy = true →
    (Value.get r.members "type").isScalar = true

instance : DecidablePred TagFits := fun r =>
  inferInstanceAs (Decidable (r.name.naming?.isSome → _ → _))

variable {flags : Flags} {owner : Name} {isSystem : Bool} {r : RawField}

theorem named_append_singleton (raw : List RawField) (r : RawField) :
    named (raw ++ [r]) = named raw ++ (r.name.naming?.map fun k => (k, r)).toList := by
  unfold named
  rw [List.filterMap_append]
  cases h : r.name.naming? <;> simp [h]

theorem ne_of_mem_named {raw : List RawField} {p : String × RawField} (h : p ∈ named raw) :
    p.1 ≠ "" := by
  obtain ⟨r, -, hr⟩ := List.mem_filterMap.mp h
  obtain ⟨k, hk, rfl⟩ := Option.map_eq_some_iff.mp hr
  exact Value.ne_of_naming? hk

/-- Nothing comes of a field without a name. -/
theorem field?_of_unnamed (h : r.name.namesByText = true) (hname : r.name.naming? = none) :
    r.field? flags owner isSystem = .ok none := by
  unfold field?
  rw [Name.ofPresent_of_namesByText h, hname]
  rfl

/-- What comes of a field with a name. -/
theorem field?_of_named (h : r.name.namesByText = true) {k : String}
    (hname : r.name.naming? = some k) :
    r.field? flags owner isSystem
      = (FieldType.ofTag (Value.get r.members "type")).map fun type => some {
          name := .text k
          type
          rawType := Value.get r.members "type"
          nullable := r.nullable
          system := r.system flags owner (.text k) isSystem } := by
  unfold field?
  rw [Name.ofPresent_of_namesByText h, hname]
  show (FieldType.ofTag (Value.get r.members "type") >>= fun type => pure (some _)) = _
  cases FieldType.ofTag (Value.get r.members "type") <;> rfl

theorem exists_ofTag_iff {v : Value} :
    (∃ type, FieldType.ofTag v = .ok type) ↔ (v.truthy = true → v.isScalar = true) := by
  unfold FieldType.ofTag
  by_cases hpresent : v.truthy = true
  · cases v <;> simp [hpresent, Value.isScalar]
  · simp [hpresent]

/-- **A field can be read** exactly if its tag is fit for it. -/
theorem exists_field?_iff (h : r.name.namesByText = true) :
    (∃ f?, r.field? flags owner isSystem = .ok f?) ↔ r.TagFits := by
  unfold TagFits
  cases hname : r.name.naming? with
  | none => simp [field?_of_unnamed h hname]
  | some k => simp [field?_of_named h hname, map_ok_iff, ← exists_ofTag_iff]

end RawField

/-! ## One field more -/

/-- **What has been read of some fields**, given the primary key that was named
beforehand: the table follows those that have a name, and the primary key is the
one named or else the first field that is marked. -/
structure FieldsSoFar.Reads (flags : Flags) (owner : Name) (isSystem : Bool) (primary : Value)
    (raw : List RawField) (b : FieldsSoFar) : Prop where
  fields : b.1.Follows Key.text (RawField.Describes flags owner isSystem) (RawField.named raw)
  primary_eq : b.2 = primary.orElse
    (((RawField.named raw).find? fun p => p.2.marksPrimary).elim primary fun p => .text p.1)

section Add

variable {flags : Flags} {owner : Name} {isSystem : Bool} {primary : Value}
  {raw : List RawField} {r : RawField} {b b' : FieldsSoFar}

/-- Whether a primary key is known already. -/
theorem FieldsSoFar.Reads.truthy (hb : b.Reads flags owner isSystem primary raw) :
    b.2.truthy = (primary.truthy
      || ((RawField.named raw).find? fun p => p.2.marksPrimary).isSome) := by
  rw [hb.primary_eq]
  unfold Value.orElse
  by_cases hprimary : primary.truthy = true
  · simp [hprimary]
  · cases hmarked : (RawField.named raw).find? fun p => p.2.marksPrimary with
    | none => simp [hprimary]
    | some p => simp [hprimary, RawField.ne_of_mem_named (List.mem_of_find?_eq_some hmarked)]

/-- **One field more** is read as what it says of itself. -/
theorem FieldsSoFar.Reads.add (hb : b.Reads flags owner isSystem primary raw)
    (hr : r.name.namesByText = true) (h : addField flags owner isSystem b r = .ok b') :
    b'.Reads flags owner isSystem primary (raw ++ [r]) := by
  unfold addField at h
  cases hname : r.name.naming? with
  | none =>
    rw [RawField.field?_of_unnamed hr hname] at h
    obtain rfl := Except.ok.inj h
    refine ⟨?_, ?_⟩
    all_goals rw [RawField.named_append_singleton, hname]
    · simpa using hb.fields
    · simpa using hb.primary_eq
  | some k =>
    rw [RawField.field?_of_named hr hname] at h
    obtain ⟨f?, hf, h⟩ := bind_ok_iff.mp h
    obtain ⟨type, htype, rfl⟩ := map_ok_iff.mp hf
    obtain rfl := Except.ok.inj h
    refine ⟨?_, ?_⟩
    all_goals rw [RawField.named_append_singleton, hname]
    · exact hb.fields.insert Key.text_injective (p := (k, r)) ⟨rfl, rfl, htype, rfl, rfl, rfl⟩
    · show (if (!b.2.truthy && r.marksPrimary) = true then Value.text k else b.2) = _
      rw [hb.truthy, List.find?_append, hb.primary_eq]
      unfold Value.orElse
      by_cases hprimary : primary.truthy = true
      · simp [hprimary]
      · cases (RawField.named raw).find? fun p => p.2.marksPrimary with
        | none => cases hmarked : r.marksPrimary <;> simp [hprimary, hmarked]
        | some p => simp [hprimary]

theorem exists_addField_iff (hr : r.name.namesByText = true) (b : FieldsSoFar) :
    (∃ b', addField flags owner isSystem b r = .ok b') ↔ r.TagFits := by
  refine Iff.trans (b := ∃ f?, r.field? flags owner isSystem = .ok f?) ?_
    (RawField.exists_field?_iff hr)
  unfold addField
  constructor
  · rintro ⟨b', h⟩
    obtain ⟨f?, hf, -⟩ := bind_ok_iff.mp h
    exact ⟨f?, hf⟩
  · rintro ⟨f?, hf⟩
    rw [hf]
    cases f? <;> exact ⟨_, rfl⟩

end Add

/-! ## The collection -/

/-- **A collection that is built** under a name from an entry and fields: there is one
field for each name of a field, in the place of its first occurrence and as the last
one describes it, and the primary key is the one that the entry names, else the first
field marked as such, else the default. -/
structure Collection.Built (mark : String) (flags : Flags) (n : String)
    (entry : List (String × Value)) (raw : List RawField) (c : Collection) : Prop where
  made : ofEntry (.text mark) flags (.text n) entry raw = .ok c
  name : c.name = .text n
  isSystem : c.isSystem = Naming.isMarked mark n
  fields : c.fields.Follows Key.text
    (RawField.Describes flags (.text n) (Naming.isMarked mark n)) (RawField.named raw)
  primary : c.primary = (Value.get entry "primary").orElse
    (((RawField.named raw).find? fun p => p.2.marksPrimary).elim defaultPrimary
      fun p => .text p.1)

namespace Collection

variable {mark : String} {flags : Flags} {n : String} {entry : List (String × Value)}
  {raw : List RawField}

/-- **What is made of an entry and fields is built from them.** -/
theorem built_ofEntry (h : ∀ r ∈ raw, r.name.namesByText = true) {c : Collection}
    (hc : ofEntry (.text mark) flags (.text n) entry raw = .ok c) :
    c.Built mark flags n entry raw := by
  have hmade := hc
  unfold ofEntry at hc
  obtain ⟨isSystem, hmarked, hc⟩ := bind_ok_iff.mp hc
  obtain rfl : Naming.isMarked mark n = isSystem :=
    Except.ok.inj ((Naming.isMarkedOf_text mark n).symm.trans hmarked)
  obtain ⟨⟨fields, primary⟩, hfields, hc⟩ := bind_ok_iff.mp hc
  have hreads : FieldsSoFar.Reads flags (.text n) (Naming.isMarked mark n)
      (Value.get entry "primary") raw (fields, primary) :=
    foldlM_along (fun _ r hr _ _ hb => hb.add (h r hr))
      ⟨.empty, by simp [RawField.named, Value.orElse]⟩ hfields
  obtain rfl := Except.ok.inj hc
  refine ⟨hmade, rfl, rfl, hreads.fields, ?_⟩
  show primary.orElse defaultPrimary = _
  rw [show primary = _ from hreads.primary_eq]
  unfold Value.orElse
  by_cases hprimary : (Value.get entry "primary").truthy = true
  · simp [hprimary]
  · cases hmarked : (RawField.named raw).find? fun p => p.2.marksPrimary with
    | none => simp [hprimary]
    | some p => simp [hprimary, RawField.ne_of_mem_named (List.mem_of_find?_eq_some hmarked)]

/-- Texts name a collection that is built, and its fields. -/
theorem Built.textual {c : Collection} (h : c.Built mark flags n entry raw) : c.Textual := by
  refine ⟨by rw [h.name]; rfl, fun k f hf => ?_⟩
  obtain ⟨m, r, -, hdescribes⟩ := h.fields.exists_of_find? Key.text_injective hf
  refine ⟨by rw [hdescribes.name]; rfl, fun l hl => ?_⟩
  rw [hdescribes.relation] at hl
  cases hl

/-- **A collection can be made** exactly if its fields can be read. -/
theorem exists_ofEntry_iff (h : ∀ r ∈ raw, r.name.namesByText = true) :
    (∃ c, ofEntry (.text mark) flags (.text n) entry raw = .ok c) ↔ ∀ r ∈ raw, r.TagFits := by
  rw [← exists_foldlM_ok_iff (fun b r hr => exists_addField_iff (h r hr) b)
    (f := addField flags (.text n) (Naming.isMarked mark n))
    (Table.empty, Value.get entry "primary")]
  have hmarked := Naming.isMarkedOf_text mark n
  unfold ofEntry
  constructor
  · rintro ⟨c, hc⟩
    obtain ⟨isSystem, hsystem, hc⟩ := bind_ok_iff.mp hc
    obtain ⟨b, hb, -⟩ := bind_ok_iff.mp hc
    obtain rfl := Except.ok.inj (hmarked.symm.trans hsystem)
    exact ⟨b, hb⟩
  · rintro ⟨b, hb⟩
    exact ⟨_, bind_ok_iff.mpr ⟨_, hmarked, bind_ok_iff.mpr ⟨b, hb, rfl⟩⟩⟩

end Collection

end CollectionTypes
