import CollectionTypes.Proofs.Schema.Indexed
import CollectionTypes.Proofs.Schema.Resolved

/-!
# Whose a field is

Three sources say whether the host platform owns a field. The first is the last of
the records kept apart from the schema that is about the field
(`Value.recordedFlag?`). If there is none, it is the last description of the field
in the schema, those beside the collections coming last (`Value.ownFlag?`). If that
has no meta data, the field is the host's if its collection carries the mark. Where
there are meta data, they decide, and a mark that is missing from them means that
the field is the project's. `Value.hostOwns` is this rule.

Every field of an index goes by it (`Run.system_of_fieldAt?`), whatever the names are,
and linking changes nothing of that (`Run.system_of_resolved`). A record that says
nothing about a field could as well not be there (`Flags.ofRecords_idle`).
-/

namespace CollectionTypes

open Outcome

/-! ## Names that are given -/

theorem Name.given_ofPresent (v : Value) : given (ofPresent v) = v.name? := by
  unfold ofPresent ofValue Value.name?
  split
  · cases ofValue? v <;> rfl
  · rfl

theorem Value.name?_eq_some {v : Value} {name : Name} (hpresent : v.truthy = true)
    (h : Name.ofValue v = .ok name) : v.name? = some name := by
  rw [name?, if_pos hpresent]
  unfold Name.ofValue at h
  split at h
  · next name' hname' => rw [hname', Except.ok.inj h]
  · cases h

/-- Whether a key is that of a name with the mark. -/
def Key.isMarked (mark : String) : Key → Bool
  | .text n => Naming.isMarked mark n
  | _ => false

/-- Only a text carries a mark. -/
theorem Naming.eq_false_of_isMarkedOf {mark : String} {v : Value} {marked : Bool}
    (hv : v.kind ≠ .text) (h : isMarkedOf (.text mark) v = .ok marked) : marked = false := by
  unfold isMarkedOf at h
  split at h
  · split at h
    · exact absurd rfl hv
    · exact absurd rfl hv
    · cases h
  · exact (Except.ok.inj h).symm

/-- Whether a name carries a mark is told by its key. -/
theorem Name.isMarked_key {mark : String} {name : Name} {marked : Bool}
    (h : Naming.isMarkedOf (.text mark) name.value = .ok marked) :
    name.key.isMarked mark = marked := by
  cases name with
  | text n =>
    rw [value, Naming.isMarkedOf_text] at h
    exact Except.ok.inj h
  | flag b => exact (Naming.eq_false_of_isMarkedOf Kind.noConfusion h).symm
  | int n => exact (Naming.eq_false_of_isMarkedOf Kind.noConfusion h).symm
  | real x =>
    rw [Naming.eq_false_of_isMarkedOf Kind.noConfusion h]
    cases x <;> rfl

/-! ## Records -/

namespace Value

/-- The records that a value lists, if it lists any. -/
def recordsIn (records : Value) : List Value :=
  (Flags.recordsOf records).toOption.getD []

/-- **What a record says**: the place of a field, and whether the host owns it. It says
nothing if it lacks either name or has no meta data. -/
def enrichment? (r : Value) : Option (FieldPlace × Bool) :=
  (r.part "collection").name?.bind fun c => (r.part "field").name?.bind fun f =>
    (systemFlag? (r.part "meta")).map fun system => ((c.key, f.key), system)

/-- **What the records say of a field**: what the last one says that says anything
of it. -/
def recordedFlag? (records : Value) (place : FieldPlace) : Option Bool :=
  Table.lastOf place (records.recordsIn.filterMap enrichment?)

/-- **A record that says nothing**: it is no object, lacks a collection or a field, or has
no object for its meta data. -/
def IsIdle (r : Value) : Prop :=
  r.members? = none ∨ (r.part "collection").truthy = false ∨ (r.part "field").truthy = false
    ∨ (r.part "meta").members? = none

end Value

namespace Flags

theorem given_flag? (r : Value) :
    (given (flag? r)).map (fun f => (f.key, f.system)) = r.enrichment? := by
  unfold flag? Value.enrichment? Value.part
  cases r.members? with
  | none => rfl
  | some ms =>
    rw [Option.getD_some]
    dsimp only
    unfold Value.name?
    cases (Value.get ms "collection").truthy with
    | false => rfl
    | true =>
      cases (Value.get ms "field").truthy with
      | false => cases Name.ofValue? (Value.get ms "collection") <;> rfl
      | true =>
        unfold Name.ofValue
        cases systemFlag? (Value.get ms "meta") with
        | none =>
          cases Name.ofValue? (Value.get ms "collection") with
          | none => rfl
          | some c => cases Name.ofValue? (Value.get ms "field") <;> rfl
        | some system =>
          cases Name.ofValue? (Value.get ms "collection") with
          | none => rfl
          | some c => cases Name.ofValue? (Value.get ms "field") <;> rfl

/-- **What flags say of a field** is what the records say of it. -/
theorem system?_eq {records : Value} {flags : Flags} (h : ofRecords records = .ok flags)
    (c f : Name) : flags.system? c f = records.recordedFlag? (c.key, f.key) := by
  obtain ⟨rs, hrs, -, rfl⟩ := ofRecords_ok_iff.mp h
  have hrecords : records.recordsIn = rs := by
    rw [Value.recordsIn, hrs]
    rfl
  rw [system?_foldl_note, List.map_filterMap, Value.recordedFlag?, hrecords]
  simp only [given_flag?]
  exact Option.or_none

/-- A record that says nothing changes no flag. -/
theorem take_idle {r : Value} (h : r.IsIdle) (flags : Flags) : flags.take r = .ok flags := by
  unfold take
  cases hms : r.members? with
  | none => rfl
  | some ms =>
    unfold Value.IsIdle Value.part at h
    rw [hms, Option.getD_some] at h
    dsimp only
    rcases h with h | h | h | h
    · cases h
    · rw [h]
      rfl
    · rw [h, Bool.and_false]
      rfl
    · rw [systemFlag?, h]
      exact ite_self _

theorem ofRecords_list (rs : List Value) : ofRecords (.list rs) = rs.foldlM take Table.empty := by
  cases rs <;> rfl

/-- **A record that says nothing** could as well not be there. -/
theorem ofRecords_idle {r : Value} (h : r.IsIdle) (before after : List Value) :
    ofRecords (.list (before ++ r :: after)) = ofRecords (.list (before ++ after)) := by
  rw [ofRecords_list, ofRecords_list, List.foldlM_append, List.foldlM_append]
  refine congrArg _ (funext fun flags => ?_)
  rw [List.foldlM_cons, take_idle h]
  rfl

end Flags

/-! ## The fields of one collection -/

namespace RawField

/-- **The fields that have a name**, each with its key. -/
def keyed (raw : List RawField) : List (Key × RawField) :=
  raw.filterMap fun r => r.name.name?.map fun name => (name.key, r)

/-- **Whose a field is that stands under a key**, as the flags and its description say. -/
def Owned (flags : Flags) (owner : Name) (ownerIsSystem : Bool) (k : Key) (r : RawField)
    (f : Field) : Prop :=
  ∃ name : Name, name.key = k ∧ f.system = r.system flags owner name ownerIsSystem

end RawField

section Fields

variable {flags : Flags} {owner : Name} {ownerIsSystem : Bool}

/-- **One field more** is owned as its description says. -/
theorem follows_addField {raw : List RawField} {r : RawField} {b b' : FieldsSoFar}
    (hb : b.1.Follows id (RawField.Owned flags owner ownerIsSystem) (RawField.keyed raw))
    (h : addField flags owner ownerIsSystem b r = .ok b') :
    b'.1.Follows id (RawField.Owned flags owner ownerIsSystem) (RawField.keyed (raw ++ [r])) := by
  have hone : RawField.keyed (raw ++ [r])
      = RawField.keyed raw ++ (r.name.name?.map fun name => (name.key, r)).toList := by
    unfold RawField.keyed
    rw [List.filterMap_append]
    cases hname : r.name.name? <;> simp [hname]
  unfold addField at h
  obtain ⟨f?, hf, h⟩ := bind_ok_iff.mp h
  unfold RawField.field? at hf
  obtain ⟨name?, hname, hf⟩ := bind_ok_iff.mp hf
  obtain ⟨-, rfl⟩ := Name.ofPresent_ok_iff.mp hname
  rw [hone]
  cases hgiven : r.name.name? with
  | none =>
    rw [hgiven] at hf
    obtain rfl := Except.ok.inj hf
    obtain rfl := Except.ok.inj h
    simpa using hb
  | some name =>
    rw [hgiven] at hf
    obtain ⟨type, -, hf⟩ := bind_ok_iff.mp hf
    obtain rfl := Except.ok.inj hf
    obtain rfl := Except.ok.inj h
    exact hb.insert Function.injective_id (p := (name.key, r)) ⟨name, rfl, rfl⟩

/-- **The fields of a collection** are owned as the last descriptions of them say. -/
theorem Collection.follows_ofEntry {mark : String} {name : Name} {entry : List (String × Value)}
    {raw : List RawField} {c : Collection} (h : ofEntry (.text mark) flags name entry raw = .ok c) :
    c.fields.Follows id (RawField.Owned flags name (name.key.isMarked mark))
      (RawField.keyed raw) := by
  unfold ofEntry at h
  obtain ⟨isSystem, hmarked, h⟩ := bind_ok_iff.mp h
  obtain ⟨⟨fields, primary⟩, hfields, h⟩ := bind_ok_iff.mp h
  obtain rfl := Except.ok.inj h
  rw [Name.isMarked_key hmarked]
  exact foldlM_along (P := fun raw (b : FieldsSoFar) =>
      b.1.Follows id (RawField.Owned flags name isSystem) (RawField.keyed raw))
    (fun _ _ _ _ _ hb hr => follows_addField hb hr) .empty hfields

end Fields

/-! ## The descriptions in a schema -/

namespace Value

/-- **The entry of a collection** under the key of its name: an object with a name that is
no folder. -/
def entry? (v : Value) : Option (Key × List (String × Value)) :=
  v.members?.bind fun entry => (Value.get entry "collection").name?.bind fun name =>
    if isFolder entry then none else some (name.key, entry)

variable (schema : Value)

/-- The entries of a schema, in a row. -/
def keyedEntries : List (Key × List (String × Value)) :=
  (entriesOf schema).filterMap entry?

/-- The fields beside the collections that one of them owns. -/
def ownedBy (k : Key) : List RawField :=
  (rawFields schema).filter fun r => (Value.get r.members "collection").name?.map Name.key = some k

/-- **The descriptions of the fields of a collection**: those in its entry, the last one of
its name, and then those beside the collections. -/
def described (k : Key) : List RawField :=
  ((Table.lastOf k schema.keyedEntries).elim [] fun entry =>
    RawField.ofValue (Value.get entry "fields")) ++ schema.ownedBy k

/-- **What a schema says of a field**: what the meta data of its last description say, if
there are any. -/
def ownFlag? (place : FieldPlace) : Option Bool :=
  (Table.lastOf place.2 (RawField.keyed (schema.described place.1))).bind fun r =>
    systemFlag? (Value.get r.members "meta")

/-- **Whether the host owns a field**: by the records, else by the schema, else by the mark
of the collection. -/
def hostOwns (mark : String) (schema records : Value) (place : FieldPlace) : Bool :=
  ((records.recordedFlag? place).or (schema.ownFlag? place)).getD (place.1.isMarked mark)

end Value

/-! ## All collections -/

section Detached

variable (schema : Value)

/-- The fields beside the collections that one of them owns, each with the name that it
gives its owner. -/
theorem map_snd_owned (k : Key) :
    (((rawFields schema).filterMap fun r => given r.owned?).filter
        fun p => p.1.key = k).map Prod.snd = schema.ownedBy k := by
  have howned : ∀ r : RawField, given r.owned?
      = (Value.get r.members "collection").name?.map fun owner => (owner, r) := by
    intro r
    rw [← Name.given_ofPresent, RawField.owned?]
    cases Name.ofPresent (Value.get r.members "collection") with
    | error m => rfl
    | ok owner? => cases owner? <;> rfl
  unfold Value.ownedBy
  induction rawFields schema with
  | nil => rfl
  | cons r raw ih =>
    rw [List.filterMap_cons, howned, List.filter_cons]
    cases (Value.get r.members "collection").name? with
    | none => simpa using ih
    | some owner =>
      rw [Option.map_some, List.filter_cons]
      by_cases hk : owner.key = k
      · simp [hk, ih]
      · simp [hk, ih]

/-- **What is gathered under a key** are the fields that the collection owns. -/
theorem fields_gathered (k : Key) :
    (((gathered (rawFields schema)).find? k).map Detached.fields).getD [] = schema.ownedBy k := by
  rw [← map_snd_owned]
  unfold gathered
  rw [find?_foldl_detach]
  cases ((rawFields schema).filterMap fun r => given r.owned?).filter fun p => p.1.key = k with
  | nil => rfl
  | cons p ps =>
    show ((ps.foldl Detached.join (some ⟨p.1, [p.2]⟩)).map Detached.fields).getD [] = _
    rw [foldl_join]
    rfl

variable {schema}

theorem fields_of_mem_gathered {d : Detached} (hd : d ∈ (gathered (rawFields schema)).values) :
    d.fields = schema.ownedBy d.owner.key := by
  obtain ⟨k, hk⟩ := Table.mem_values_iff.mp hd
  have howner : d.owner.key = k := foldl_detach_owned _ Table.All.empty k d hk
  rw [← fields_gathered, howner, hk]
  rfl

end Detached

namespace Index

variable {mark : String} {flags : Flags} {schema : Value} {detached : Table Key Detached}
  {listed ix : Index}

/-- **What an entry lists** is made of it, under the key of its name. -/
theorem rel_of_listed? {v : Value} {c? : Option Collection}
    (h : listed? (.text mark) flags detached v = .ok c?) :
    Option.Rel (fun p c => ∃ name : Name, name.key = p.1
      ∧ Collection.ofEntry (.text mark) flags name p.2
          (RawField.ofValue (Value.get p.2 "fields") ++ detachedOf detached name) = .ok c)
      v.entry? c? := by
  unfold listed? Listing.ofValue at h
  unfold Value.entry?
  cases hms : v.members? with
  | none =>
    rw [hms] at h
    obtain rfl := Except.ok.inj h
    exact .none
  | some entry =>
    rw [hms] at h
    rw [Option.bind_some]
    dsimp only at h
    cases hpresent : (Value.get entry "collection").truthy with
    | false =>
      rw [hpresent] at h
      rw [Value.name?, hpresent]
      obtain rfl := Except.ok.inj h
      exact .none
    | true =>
      rw [hpresent] at h
      cases hfolder : isFolder entry with
      | true =>
        rw [hfolder] at h
        obtain rfl := Except.ok.inj h
        cases (Value.get entry "collection").name? <;> exact .none
      | false =>
        rw [hfolder] at h
        obtain ⟨name, hname, h⟩ := bind_ok_iff.mp h
        obtain ⟨c, hmade, h⟩ := bind_ok_iff.mp h
        obtain rfl := Except.ok.inj h
        rw [Value.name?_eq_some hpresent hname]
        exact .some ⟨name, rfl, hmade⟩

/-- What detached fields make known is not listed, and is made of them. -/
theorem made_of_unlisted? {d : Detached} {c : Collection}
    (h : unlisted? (.text mark) flags listed d = .ok (some c)) :
    listed.contains d.owner.key = false
      ∧ Collection.ofEntry (.text mark) flags d.owner [] d.fields = .ok c := by
  unfold unlisted? at h
  split at h
  · cases h
  · next hnew =>
    obtain ⟨isMarked, -, h⟩ := bind_ok_iff.mp h
    split at h
    · obtain ⟨c', hmade, hsome⟩ := bind_ok_iff.mp h
      obtain rfl := Option.some.inj (Except.ok.inj hsome)
      exact ⟨Bool.eq_false_iff.mpr hnew, hmade⟩
    · cases h

/-- **The first stage** follows the entries of the schema: each collection is made of the
last entry of its name. -/
theorem Stages.follows_listed (h : Stages (.text mark) flags schema detached listed ix) :
    listed.Follows id (fun k entry c => ∃ name : Name, name.key = k
      ∧ Collection.ofEntry (.text mark) flags name entry
          (RawField.ofValue (Value.get entry "fields") ++ schema.ownedBy k) = .ok c)
      schema.keyedEntries := by
  obtain ⟨-, rfl, hentries, rfl, -, -⟩ := h
  refine follows_place Function.injective_id (fun v hv => ?_) .empty
  obtain ⟨c?, hc⟩ := hentries v hv
  refine ⟨c?, hc, ?_⟩
  have hrel := rel_of_listed? hc
  generalize v.entry? = p? at hrel ⊢
  cases hrel with
  | none => exact .none
  | @some p c hmade =>
    obtain ⟨name, hname, hmade⟩ := hmade
    rw [detachedOf, fields_gathered, hname] at hmade
    refine .some ⟨?_, name, hname, hmade⟩
    rw [Collection.name_of_ofEntry hmade]
    exact hname

/-- **A collection of the index** is made of the descriptions of its fields. -/
theorem Stages.exists_ofEntry (h : Stages (.text mark) flags schema detached listed ix) {k : Key}
    {c : Collection} (hc : ix.find? k = some c) :
    ∃ (name : Name) (entry : List (String × Value)), name.key = k
      ∧ Collection.ofEntry (.text mark) flags name entry (schema.described k) = .ok c := by
  have hlisted := h.follows_listed
  obtain ⟨-, rfl, -, -, -, rfl⟩ := h
  rw [withUnlisted, find?_foldl_place, Option.or_eq_some_iff] at hc
  rcases hc with hc | ⟨-, hc⟩
  · -- the second stage only makes collections that no entry lists
    obtain ⟨c, hmem, hc⟩ := List.mem_map.mp (Table.mem_of_lastOf hc)
    obtain ⟨rfl, rfl⟩ := Prod.mk.inj hc
    obtain ⟨d, hd, hc⟩ := List.mem_filterMap.mp hmem
    obtain ⟨hnew, hmade⟩ := made_of_unlisted? (given_eq_some_iff.mp hc)
    have hnone : Table.lastOf d.owner.key schema.keyedEntries = none := by
      refine Table.lastOf_eq_none fun hk => Bool.eq_false_iff.mp hnew ?_
      exact (hlisted.contains_iff Function.injective_id).mpr (Table.mem_arrived.mpr hk)
    rw [Collection.name_of_ofEntry hmade]
    refine ⟨d.owner, [], rfl, ?_⟩
    rw [Value.described, hnone, ← fields_of_mem_gathered hd]
    exact hmade
  · obtain ⟨entry, hlast, name, hname, hmade⟩ :=
      hlisted.exists_last Function.injective_id (n := k) hc
    refine ⟨name, entry, hname, ?_⟩
    rw [Value.described, hlast]
    exact hmade

/-- **Every field of the index** is owned as the rule says. -/
theorem system_of_fieldAt? {records : Value} (hflags : Flags.ofRecords records = .ok flags)
    (h : (ofSchema (.text mark) flags schema).outcome = .ok ix) {place : FieldPlace} {f : Field}
    (hf : ix.fieldAt? place = some f) : f.system = Value.hostOwns mark schema records place := by
  obtain ⟨detached, listed, hstages⟩ := ofSchema_ok_iff.mp h
  obtain ⟨c, hc, hf⟩ := Option.bind_eq_some_iff.mp hf
  obtain ⟨owner, entry, howner, hmade⟩ := hstages.exists_ofEntry hc
  obtain ⟨r, hlast, name, hname, hsystem⟩ :=
    (Collection.follows_ofEntry hmade).exists_last Function.injective_id (n := place.2) hf
  rw [hsystem, RawField.system, Flags.system?_eq hflags, howner, hname, Value.hostOwns,
    Value.ownFlag?, hlast]
  rfl

end Index

namespace Run

variable {s : Settings} {schema records : Value} {ix : Index}

/-- **Every indexed field is owned as the rule says**, whatever anything is called. -/
theorem system_of_fieldAt? (h : (index s schema records).outcome = .ok ix) {place : FieldPlace}
    {f : Field} (hf : ix.fieldAt? place = some f) :
    f.system = Value.hostOwns s.systemPrefix schema records place := by
  obtain ⟨flags, hflags, hix⟩ := index_ok_iff.mp h
  exact Index.system_of_fieldAt? hflags hix hf

/-- **Linking leaves it at that.** -/
theorem system_of_resolved (h : (index s schema records).outcome = .ok ix) (rs : List Relation)
    {place : FieldPlace} {f : Field}
    (hf : (Linking.resolve ix rs).index.fieldAt? place = some f) :
    f.system = Value.hostOwns s.systemPrefix schema records place := by
  refine Linking.resolve_keeps (P := fun ix => ∀ place f, ix.fieldAt? place = some f →
    f.system = Value.hostOwns s.systemPrefix schema records place) ?_
    (fun _ _ => system_of_fieldAt? h) rs place f hf
  intro ix place l hix place' f hf
  rw [Index.attach, Index.fieldAt?_modifyField] at hf
  split at hf
  · obtain ⟨f', hf', rfl⟩ := Option.map_eq_some_iff.mp hf
    exact hix place' f' hf'
  · exact hix place' f hf

end Run

end CollectionTypes
