import CollectionTypes.Proofs.Document.Textual
import CollectionTypes.Proofs.Schema.Indexing
import CollectionTypes.Proofs.Schema.LastLink

/-!
# Schemas that cannot fail

A schema is loosely typed, and most of it may be anything. Little has to be
typed (`Value.WellTyped`): texts name the collections and the fields, if anything
does; the tag of a field is no list and no object; and the relations are a list,
with texts, if anything, for the names of their sides.

Such a schema is indexed (`Run.exists_textual_index`), and its relations are
linked (`Linking.resolve_textual`). Texts name everything in the index, before
and after.
-/

namespace CollectionTypes

open Outcome

/-! ## What is typed -/

namespace Value

/-- Whether a value is a text or nothing. -/
def isTextual : Value → Bool
  | text _ => true
  | null => true
  | _ => false

/-- Whether a value is neither a list nor an object. -/
def isScalar : Value → Bool
  | list _ => false
  | object _ => false
  | _ => true

/-- The entries of a container of fields. -/
def fieldEntries (v : Value) : List Value :=
  (rows "field" v).map Prod.snd

/-- **An entry of a field that is typed.** -/
structure TypedField (v : Value) : Prop where
  name : (v.part "field").isTextual = true
  tag : (v.part "type").isScalar = true

/-- **An entry of a collection that is typed.** -/
structure TypedCollection (v : Value) : Prop where
  name : (v.part "collection").isTextual = true
  fields : ∀ f ∈ (v.part "fields").fieldEntries, f.TypedField

/-- **Meta data of a relation that are typed.** -/
structure TypedSides (v : Value) : Prop where
  oneCollection : (v.part "one_collection").isTextual = true
  oneField : (v.part "one_field").isTextual = true
  manyCollection : (v.part "many_collection").isTextual = true
  manyField : (v.part "many_field").isTextual = true

/-- **Relations that are typed**: none, or a list. -/
def TypedRelations : Value → Prop
  | null => True
  | list vs => ∀ r ∈ vs, (r.part "meta").TypedSides
  | _ => False

/-- **Records of fields that are typed**: none, or a list. -/
def TypedRecords : Value → Prop
  | null => True
  | list vs => ∀ v ∈ vs, (v.part "collection").isTextual = true
      ∧ (v.part "field").isTextual = true
  | _ => False

/-- **A schema that is typed**, as far as it has to be. -/
structure WellTyped (schema : Value) : Prop where
  collections : ∀ v ∈ entriesOf schema, v.TypedCollection
  fields : ∀ f ∈ (schema.part "fields").fieldEntries,
    f.TypedField ∧ (f.part "collection").isTextual = true
  relations : (schema.part "relations").TypedRelations

/-! ### Whether it is typed can be computed -/

instance : DecidablePred TypedField := fun _ =>
  decidable_of_iff (_ ∧ _) ⟨fun h => ⟨h.1, h.2⟩, fun h => ⟨h.name, h.tag⟩⟩

instance : DecidablePred TypedCollection := fun _ =>
  decidable_of_iff (_ ∧ _) ⟨fun h => ⟨h.1, h.2⟩, fun h => ⟨h.name, h.fields⟩⟩

instance : DecidablePred TypedSides := fun _ =>
  decidable_of_iff (_ ∧ _ ∧ _ ∧ _) ⟨fun h => ⟨h.1, h.2.1, h.2.2.1, h.2.2.2⟩,
    fun h => ⟨h.oneCollection, h.oneField, h.manyCollection, h.manyField⟩⟩

instance : DecidablePred TypedRelations
  | null => .isTrue trivial
  | list vs => inferInstanceAs (Decidable (∀ r ∈ vs, (r.part "meta").TypedSides))
  | bool _ | int _ | real _ | text _ | object _ => .isFalse not_false

instance : DecidablePred TypedRecords
  | null => .isTrue trivial
  | list vs => inferInstanceAs (Decidable (∀ v ∈ vs, (v.part "collection").isTextual = true
      ∧ (v.part "field").isTextual = true))
  | bool _ | int _ | real _ | text _ | object _ => .isFalse not_false

instance : DecidablePred WellTyped := fun _ =>
  decidable_of_iff (_ ∧ _ ∧ _) ⟨fun h => ⟨h.1, h.2.1, h.2.2⟩,
    fun h => ⟨h.collections, h.fields, h.relations⟩⟩

variable {v : Value}

theorem exists_of_isTextual (h : v.isTextual = true) : ∃ t, v = ofText? t := by
  cases v with
  | text s => exact ⟨some s, rfl⟩
  | null => exact ⟨none, rfl⟩
  | _ => cases h

theorem part_of_members {ms : List (String × Value)} (h : v.members? = some ms)
    (name : String) : v.part name = get ms name := by
  unfold part
  rw [h]
  rfl

end Value

/-- What is textual is a text as a name, or no name at all. -/
theorem Name.gives_ofPresent {v : Value} (h : v.isTextual = true) :
    Gives (fun name => name.text?.isSome = true) (ofPresent v) := by
  obtain ⟨t, rfl⟩ := Value.exists_of_isTextual h
  rw [ofPresent_ofText?]
  cases t with
  | none => exact gives_none
  | some s =>
    unfold ofText?
    dsimp only
    split
    · exact gives_none
    · exact gives_some rfl

theorem Name.exists_ofValue {v : Value} (h : v.isTextual = true) (hpresent : v.truthy = true) :
    ∃ s, Name.ofValue v = .ok (text s) := by
  cases v with
  | text s => exact ⟨s, rfl⟩
  | null => cases hpresent
  | _ => cases h

theorem FieldType.exists_ofTag {v : Value} (h : v.isScalar = true) : ∃ t, ofTag v = .ok t := by
  unfold ofTag
  split
  · cases v with
    | list items => cases h
    | object ms => cases h
    | _ => exact ⟨_, rfl⟩
  · exact ⟨_, rfl⟩

/-! ## Records about fields -/

namespace Flags

/-- A record that names a collection and a field by texts can be read. -/
theorem exists_flag? {v : Value} (hcollection : (v.part "collection").isTextual = true)
    (hfield : (v.part "field").isTextual = true) : ∃ f?, flag? v = .ok f? := by
  unfold flag?
  cases hms : v.members? with
  | none => exact ⟨none, rfl⟩
  | some ms =>
    rw [Value.part_of_members hms] at hcollection hfield
    dsimp only
    split
    · next hpresent =>
      obtain ⟨hpresent, hpresent'⟩ := Bool.and_eq_true_iff.mp hpresent
      obtain ⟨c, hc⟩ := Name.exists_ofValue hcollection hpresent
      obtain ⟨f, hf⟩ := Name.exists_ofValue hfield hpresent'
      cases systemFlag? (Value.get ms "meta") with
      | none => exact ⟨none, rfl⟩
      | some system => exact ⟨_, bind_ok_iff.mpr ⟨_, hc, bind_ok_iff.mpr ⟨_, hf, rfl⟩⟩⟩
    · exact ⟨none, rfl⟩

theorem exists_ofRecords {records : Value} (h : records.TypedRecords) :
    ∃ flags, ofRecords records = .ok flags := by
  cases records with
  | null => exact ⟨Table.empty, rfl⟩
  | list vs =>
    have hvs : recordsOf (.list vs) = .ok vs := by
      cases vs <;> rfl
    exact ⟨_, ofRecords_ok_iff.mpr ⟨vs, hvs, fun v hv => exists_flag? (h v hv).1 (h v hv).2, rfl⟩⟩
  | _ => exact absurd h not_false

end Flags

/-! ## Fields -/

/-- A field as a schema gives it, if it is typed. -/
structure RawField.Typed (r : RawField) : Prop where
  name : r.name.isTextual = true
  tag : (Value.get r.members "type").isScalar = true

namespace RawField

variable {r : RawField}

/-- **A typed entry makes a typed field**: it stands under a text, or under what
it gives as its name. -/
theorem typed_of_mem {v : Value} (h : ∀ f ∈ v.fieldEntries, f.TypedField)
    (hr : r ∈ ofValue v) : r.Typed := by
  obtain ⟨⟨key, f⟩, hrow, hf⟩ := List.mem_filterMap.mp hr
  obtain ⟨ms, hms, rfl⟩ := Option.map_eq_some_iff.mp hf
  obtain ⟨hname, htag⟩ := h f (List.mem_map_of_mem hrow)
  rw [Value.part_of_members hms] at hname htag
  have hkey : key.isTextual = true := by
    cases v with
    | object es =>
      obtain ⟨e, -, he⟩ := List.mem_map.mp hrow
      rw [← (Prod.mk.inj he).1]
      rfl
    | list vs =>
      obtain ⟨f', -, he⟩ := List.mem_map.mp hrow
      obtain ⟨hkey, rfl⟩ := Prod.mk.inj he
      have hms' : f'.members? = some ms := hms
      rw [hms'] at hkey
      rw [← hkey]
      exact hname
    | _ => cases hrow
  refine ⟨?_, htag⟩
  unfold name Value.orElse
  split
  · exact hname
  · exact hkey

/-- **A typed field can be read.** -/
theorem Typed.gives_field? (h : r.Typed) (flags : Flags) (owner : Name) (isSystem : Bool) :
    Gives Field.Textual (r.field? flags owner isSystem) := by
  obtain ⟨name?, hname, htext⟩ := Name.gives_ofPresent h.name
  obtain ⟨t, ht⟩ := FieldType.exists_ofTag h.tag
  unfold field?
  rw [hname]
  cases name? with
  | none => exact gives_none
  | some name =>
    dsimp only [bind, Except.bind]
    rw [ht]
    exact gives_some ⟨htext name rfl, fun l hl => by cases hl⟩

end RawField

theorem exists_addField {r : RawField} (hr : r.Typed) (flags : Flags) (owner : Name)
    (isSystem : Bool) {b : FieldsSoFar} (hb : b.1.All fun _ f => f.Textual) :
    ∃ b', addField flags owner isSystem b r = .ok b' ∧ b'.1.All fun _ f => f.Textual := by
  obtain ⟨f?, hf, htextual⟩ := hr.gives_field? flags owner isSystem
  unfold addField
  rw [hf]
  cases f? with
  | none => exact ⟨b, rfl, hb⟩
  | some f => exact ⟨_, rfl, hb.insert (htextual f rfl)⟩

/-! ## Collections -/

/-- **Typed fields make a collection named by texts.** -/
theorem Collection.exists_ofEntry (mark : String) (flags : Flags) {name : Name}
    (hname : name.text?.isSome = true) (entry : List (String × Value)) {raw : List RawField}
    (hraw : ∀ r ∈ raw, r.Typed) :
    ∃ c, ofEntry (.text mark) flags name entry raw = .ok c ∧ c.Textual := by
  have hmarked : ∃ isSystem, Naming.isMarkedOf (.text mark) name.value = .ok isSystem := by
    rw [Name.eq_text_of_isText hname]
    exact ⟨_, Naming.isMarkedOf_text mark _⟩
  obtain ⟨isSystem, hsystem⟩ := hmarked
  obtain ⟨b, hb, htextual⟩ := exists_foldlM_ok
    (P := fun b : FieldsSoFar => b.1.All fun _ f => f.Textual)
    (fun b hb r hr => exists_addField (hraw r hr) flags name isSystem hb)
    (b := (Table.empty, Value.get entry "primary")) Table.All.empty
  unfold ofEntry
  exact ⟨_, bind_ok_iff.mpr ⟨isSystem, hsystem, bind_ok_iff.mpr ⟨b, hb, rfl⟩⟩,
    hname, htextual⟩

/-! ## Detached fields -/

/-- Detached fields that are typed, of a collection named by a text. -/
structure Detached.Typed (d : Detached) : Prop where
  owner : d.owner.text?.isSome = true
  fields : ∀ r ∈ d.fields, r.Typed

/-- Typed fields stay typed when they are gathered. -/
theorem foldl_detach_typed {ps : List (Name × RawField)}
    (hps : ∀ p ∈ ps, p.1.text?.isSome = true ∧ p.2.Typed) {t : Table Key Detached}
    (ht : t.All fun _ d => d.Typed) : (ps.foldl detach t).All fun _ d => d.Typed := by
  induction ps generalizing t with
  | nil => exact ht
  | cons p ps ih =>
    rw [List.forall_mem_cons] at hps
    refine ih hps.2 ?_
    unfold detach
    split
    · refine ht.modify fun d hd => ⟨hd.owner, fun r hr => ?_⟩
      rcases List.mem_append.mp hr with hr | hr
      · exact hd.fields r hr
      · rw [List.mem_singleton.mp hr]
        exact hps.1.2
    · refine ht.insert ⟨hps.1.1, fun r hr => ?_⟩
      rw [List.mem_singleton.mp hr]
      exact hps.1.2

section Schema

variable {schema : Value}

/-- A detached field of a typed schema names its collection by a text, if it names
one. -/
theorem Value.WellTyped.gives_owned? (h : schema.WellTyped) {r : RawField}
    (hr : r ∈ rawFields schema) :
    Gives (fun p => p.1.text?.isSome = true ∧ p.2.Typed) r.owned? := by
  have htyped : r.Typed := RawField.typed_of_mem (fun f hf => (h.fields f hf).1) hr
  obtain ⟨⟨key, f⟩, hrow, hf⟩ := List.mem_filterMap.mp hr
  obtain ⟨ms, hms, rfl⟩ := Option.map_eq_some_iff.mp hf
  have howner := (h.fields f (List.mem_map_of_mem hrow)).2
  rw [Value.part_of_members hms] at howner
  obtain ⟨name?, hname, htext⟩ := Name.gives_ofPresent howner
  unfold RawField.owned?
  dsimp only
  rw [hname]
  cases name? with
  | none => exact gives_none
  | some name => exact gives_some ⟨htext name rfl, htyped⟩

theorem Value.WellTyped.gathered_typed (h : schema.WellTyped) :
    (gathered (rawFields schema)).All fun _ d => d.Typed := by
  refine foldl_detach_typed (fun p hp => ?_) Table.All.empty
  obtain ⟨r, hr, hgiven⟩ := List.mem_filterMap.mp hp
  exact (h.gives_owned? hr).of_given hgiven

/-! ## Indexes -/

namespace Index

variable {mark : String} {flags : Flags}

theorem foldl_place_textual {cs : List Collection} (hcs : ∀ c ∈ cs, c.Textual) {ix : Index}
    (hix : ix.Textual) : (cs.foldl place ix).Textual := by
  induction cs generalizing ix with
  | nil => exact hix
  | cons c cs ih =>
    rw [List.forall_mem_cons] at hcs
    exact ih hcs.2 (Table.All.insert hix hcs.1)

/-- Detached fields that are typed stay so when they are found again. -/
theorem typed_of_mem_detachedOf {detached : Table Key Detached}
    (hdetached : detached.All fun _ d => d.Typed) {name : Name} {r : RawField}
    (hr : r ∈ detachedOf detached name) : r.Typed := by
  unfold detachedOf at hr
  cases hd : detached.find? name.key with
  | none =>
    rw [hd] at hr
    cases hr
  | some d =>
    rw [hd] at hr
    exact (hdetached _ d hd).fields r hr

/-- **A typed entry lists a collection named by texts**, if it lists one. -/
theorem gives_listed? {detached : Table Key Detached}
    (hdetached : detached.All fun _ d => d.Typed) {v : Value} (hv : v.TypedCollection) :
    Gives Collection.Textual (listed? (.text mark) flags detached v) := by
  unfold listed? Listing.ofValue
  cases hms : v.members? with
  | none => exact gives_none
  | some ms =>
    have hname := Value.part_of_members hms "collection" ▸ hv.name
    have hfields := Value.part_of_members hms "fields" ▸ hv.fields
    dsimp only
    by_cases hpresent : (Value.get ms "collection").truthy = true
    · obtain ⟨s, hs⟩ := Name.exists_ofValue hname hpresent
      have hraw : ∀ r ∈ RawField.ofValue (Value.get ms "fields") ++ detachedOf detached (.text s),
          r.Typed := by
        intro r hr
        rcases List.mem_append.mp hr with hr | hr
        · exact RawField.typed_of_mem hfields hr
        · exact typed_of_mem_detachedOf hdetached hr
      have htext : (Name.text s).text?.isSome = true := rfl
      obtain ⟨c, hc, htextual⟩ := Collection.exists_ofEntry mark flags htext ms hraw
      rw [hpresent]
      cases isFolder ms with
      | true => exact gives_none
      | false =>
        show Gives _ (Name.ofValue (Value.get ms "collection") >>= _)
        rw [hs]
        dsimp only [bind, Except.bind]
        rw [hc]
        exact gives_some htextual
    · rw [Bool.eq_false_iff.mpr hpresent]
      exact gives_none

/-- **Typed detached fields make a collection known that is named by texts**, if
they make one known. -/
theorem gives_unlisted? (listed : Index) {d : Detached} (hd : d.Typed) :
    Gives Collection.Textual (unlisted? (.text mark) flags listed d) := by
  unfold unlisted?
  split
  · exact gives_none
  · obtain ⟨c, hc, htextual⟩ := Collection.exists_ofEntry mark flags hd.owner [] hd.fields
    rw [Name.eq_text_of_isText hd.owner] at hc ⊢
    rw [Name.value, Naming.isMarkedOf_text]
    cases Naming.isMarked mark d.owner.shownText with
    | false => exact gives_none
    | true =>
      dsimp only [bind, Except.bind]
      rw [hc]
      exact gives_some htextual

/-- **A typed schema is indexed**, and texts name everything in its index. -/
theorem exists_textual_ofSchema (mark : String) (flags : Flags) (h : schema.WellTyped) :
    ∃ ix, (ofSchema (.text mark) flags schema).outcome = .ok ix ∧ ix.Textual := by
  have hdetached := h.gathered_typed
  have htyped : ∀ d ∈ (gathered (rawFields schema)).values, d.Typed := by
    intro d hd
    obtain ⟨k, hk⟩ := Table.mem_values_iff.mp hd
    exact hdetached k d hk
  have hlisted : (listedFrom (.text mark) flags (gathered (rawFields schema))
      (entriesOf schema)).Textual := by
    refine foldl_place_textual (fun c hc => ?_) Table.All.empty
    obtain ⟨v, hv, hgiven⟩ := List.mem_filterMap.mp hc
    exact (gives_listed? hdetached (h.collections v hv)).of_given hgiven
  refine ⟨_, ofSchema_ok_iff.mpr ⟨_, _, ⟨?_, rfl, ?_, rfl, ?_, rfl⟩⟩, ?_⟩
  · exact fun r hr => (h.gives_owned? hr).exists_ok
  · exact fun v hv => (gives_listed? hdetached (h.collections v hv)).exists_ok
  · exact fun d hd => (gives_unlisted? _ (htyped d hd)).exists_ok
  · refine foldl_place_textual (fun c hc => ?_) hlisted
    obtain ⟨d, hd, hgiven⟩ := List.mem_filterMap.mp hc
    exact (gives_unlisted? _ (htyped d hd)).of_given hgiven

end Index

theorem Run.exists_textual_index (s : Settings) {records : Value} (h : schema.WellTyped)
    (hrecords : records.TypedRecords) :
    ∃ ix, (Run.index s schema records).outcome = .ok ix ∧ ix.Textual := by
  obtain ⟨flags, hflags⟩ := Flags.exists_ofRecords hrecords
  obtain ⟨ix, hix, htextual⟩ := Index.exists_textual_ofSchema s.systemPrefix flags h
  exact ⟨ix, index_ok_iff.mpr ⟨flags, hflags, hix⟩, htextual⟩

/-! ## Relations -/

/-- Sides named by texts, if by anything. -/
structure Sides.Textual (s : Sides) : Prop where
  oneCollection : ∃ t, s.oneCollection = .ofText? t
  oneField : ∃ t, s.oneField = .ofText? t
  manyCollection : ∃ t, s.manyCollection = .ofText? t
  manyField : ∃ t, s.manyField = .ofText? t

/-- **The relations of a typed schema** can be told, with texts for the names of
their sides. -/
theorem Relation.exists_ofSchema (h : schema.WellTyped) :
    ∃ rs, Relation.ofSchema schema = .ok rs ∧ ∀ r ∈ rs, ∀ s ∈ r.sides, s.Textual := by
  rw [ofSchema_eq_part]
  have helements : ∃ vs, ((schema.part "relations").orElse (.list [])).elements = .ok vs
      ∧ ∀ v ∈ vs, (v.part "meta").TypedSides := by
    have hrelations := h.relations
    cases hpart : schema.part "relations" with
    | null => exact ⟨[], rfl, fun v hv => absurd hv List.not_mem_nil⟩
    | list vs =>
      rw [hpart] at hrelations
      refine ⟨vs, ?_, hrelations⟩
      cases vs <;> rfl
    | _ =>
      rw [hpart] at hrelations
      exact absurd hrelations not_false
  obtain ⟨vs, hvs, htyped⟩ := helements
  refine ⟨_, bind_ok_iff.mpr ⟨vs, hvs, rfl⟩, fun r hr s hs => ?_⟩
  obtain ⟨v, hv, hr⟩ := List.mem_filterMap.mp hr
  obtain ⟨ms, hms, rfl⟩ := Option.map_eq_some_iff.mp hr
  obtain ⟨hone, honeField, hmany, hmanyField⟩ := htyped v hv
  have hmeta := Value.part_of_members hms "meta"
  obtain ⟨ms', hms', rfl⟩ := Option.map_eq_some_iff.mp hs
  rw [hmeta] at hone honeField hmany hmanyField
  rw [Value.part_of_members hms'] at hone honeField hmany hmanyField
  exact ⟨Value.exists_of_isTextual hone, Value.exists_of_isTextual honeField,
    Value.exists_of_isTextual hmany, Value.exists_of_isTextual hmanyField⟩

end Schema

/-- A link to a text, or nowhere. -/
def Link.Textual (l : Link) : Prop :=
  ∃ t, l.related = .ofText? t

namespace Linking

variable {ix : Index} {s : Sides}

theorem gives_oneSide (ix : Index) (h : s.Textual) :
    Gives (fun l => l.2.Textual) (oneSide ix s) := by
  obtain ⟨⟨oc, hoc⟩, ⟨of, hof⟩, ⟨mc, hmc⟩, -⟩ := h
  unfold oneSide
  rw [hoc, hof, hmc, Index.locate_ofText?, Index.primaryOf_ofText?]
  cases (FieldPlace.ofTexts? oc of).filter ix.has with
  | none => exact gives_none
  | some place => exact gives_some ⟨mc, rfl⟩

theorem gives_manySide (ix : Index) (r : Relation) (h : s.Textual) (one : Option FieldPlace) :
    Gives (fun l => l.2.Textual) (manySide ix r s one) := by
  obtain ⟨⟨oc, hoc⟩, -, ⟨mc, hmc⟩, ⟨mf, hmf⟩⟩ := h
  have hkey : ∃ key, manyKey ix r s = .ok key := by
    unfold manyKey
    rw [hoc, Index.primaryOf_ofText?]
    split <;> exact ⟨_, rfl⟩
  obtain ⟨key, hkey⟩ := hkey
  have hplace := Index.locate_ofText? ix mc mf
  rw [← hmc, ← hmf] at hplace
  cases hfound : (FieldPlace.ofTexts? mc mf).filter ix.has with
  | none =>
    rw [hfound] at hplace
    rw [manySide_ok_iff.mpr (.inl ⟨none, hplace, .inl rfl, rfl⟩)]
    exact gives_none
  | some place =>
    rw [hfound] at hplace
    by_cases hsame : one = some place
    · rw [manySide_ok_iff.mpr (.inl ⟨some place, hplace, .inr hsame.symm, rfl⟩)]
      exact gives_none
    · rw [manySide_ok_iff.mpr (.inr ⟨place, key, hplace, hsame, hkey, rfl⟩)]
      exact gives_some ⟨oc, hoc⟩

/-- **Sides named by texts** can be linked, to texts. -/
theorem exists_linksOf (ix : Index) {r : Relation} (h : ∀ s ∈ r.sides, s.Textual) :
    ∃ ls, linksOf ix r = .ok ls ∧ ∀ l ∈ ls, l.2.Textual := by
  cases hs : r.sides with
  | none => exact ⟨[], linksOf_of_no_sides ix hs, fun l hl => absurd hl List.not_mem_nil⟩
  | some s =>
    obtain ⟨one, hone, honeTextual⟩ := gives_oneSide ix (h s hs)
    obtain ⟨many, hmany, hmanyTextual⟩ := gives_manySide ix r (h s hs) (one.map Prod.fst)
    refine ⟨_, (linksOf_ok_iff hs).mpr ⟨one, many, hone, hmany, rfl⟩, fun l hl => ?_⟩
    rcases List.mem_append.mp hl with hl | hl
    · exact honeTextual l (Option.mem_toList.mp hl)
    · exact hmanyTextual l (Option.mem_toList.mp hl)

end Linking

theorem Index.Textual.attachAll {ix : Index} (hix : ix.Textual) {ls : List (FieldPlace × Link)}
    (h : ∀ l ∈ ls, l.2.Textual) : (ix.attachAll ls).Textual := by
  induction ls generalizing ix with
  | nil => exact hix
  | cons l ls ih =>
    rw [List.forall_mem_cons] at h
    exact ih (hix.attach? (some l.1) h.1) h.2

namespace Linking

/-- **One relation more** between texts: it cannot fail, and texts name everything
as before. -/
theorem link_textual {w : Linking} (hw : w.fault = none) (hix : w.index.Textual) {r : Relation}
    (h : ∀ s ∈ r.sides, s.Textual) : (w.link r).fault = none ∧ (w.link r).index.Textual := by
  obtain ⟨ls, hls, hrelated⟩ := exists_linksOf w.index h
  obtain ⟨hfault, hindex⟩ := link_of_ok hw hls
  rw [hindex]
  exact ⟨hfault, hix.attachAll hrelated⟩

/-- **Relations between texts** are all linked, and texts name everything as
before. -/
theorem resolve_textual {ix : Index} (hix : ix.Textual) {rs : List Relation}
    (h : ∀ r ∈ rs, ∀ s ∈ r.sides, s.Textual) :
    (resolve ix rs).fault = none ∧ (resolve ix rs).index.Textual := by
  have hrun : ∀ w : Linking, w.fault = none → w.index.Textual →
      (rs.foldl link w).fault = none ∧ (rs.foldl link w).index.Textual := by
    induction rs with
    | nil => exact fun w hw hix => ⟨hw, hix⟩
    | cons r rs ih =>
      rw [List.forall_mem_cons] at h
      intro w hw hix
      obtain ⟨hfault, htextual⟩ := link_textual hw hix h.1
      exact ih h.2 (w.link r) hfault htextual
  exact hrun (start ix) rfl hix

end Linking

end CollectionTypes
