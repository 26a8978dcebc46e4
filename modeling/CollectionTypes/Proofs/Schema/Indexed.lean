import CollectionTypes.Proofs.Schema.Fields

/-!
# What indexing does

If texts name everything that has a name in a schema, its index is told without a
run (`indexing_is_exact`). A schema lists collections: the entries that are objects
with a name and are no folders (`Value.listings`). Beside them stand fields that
name the collection that owns them (`Value.detachments`). The index has the listed
collections, in the order in which their names first appear, and behind them those
of the host that are known by detached fields only, in the order of their first
fields (`Value.unlistedNames`). Each is built from the last entry of its name and
from its fields, those of the entry before those beside it.

Both stages put collections in one after the other; the table follows what arrives
(`Index.follows_foldl_place`), and the second stage goes on where the first one
ended.
-/

namespace CollectionTypes

open Outcome

/-! ## What a schema names -/

namespace Value

/-- **The collection that an entry lists**: the entry is an object, has a name and is
no folder. -/
def listing? (v : Value) : Option (String × List (String × Value)) :=
  v.members?.bind fun entry => (Value.get entry "collection").naming?.bind fun n =>
    if isFolder entry then none else some (n, entry)

variable (schema : Value)

/-- The collections that a schema lists, in a row. -/
def listings : List (String × List (String × Value)) :=
  (entriesOf schema).filterMap listing?

/-- The fields beside the collections that name an owner, each with it. -/
def detachments : List (String × RawField) :=
  (rawFields schema).filterMap fun r =>
    (Value.get r.members "collection").naming?.map fun n => (n, r)

/-- The fields beside the collections that one of them owns. -/
def beside (n : String) : List RawField :=
  (schema.detachments.filter fun p => p.1 = n).map Prod.snd

/-- **The names of listed collections**, as they first appear. -/
def listedNames : List String :=
  Table.arrived schema.listings

/-- **The names of collections that are not listed**: the host's among the owners of
fields, as they first appear. -/
def unlistedNames (mark : String) : List String :=
  (Table.arrived schema.detachments).filter fun n =>
    n ∉ schema.listedNames ∧ Naming.isMarked mark n = true

/-- The collections that are not listed, in a row; their entries are empty. -/
def unlistings (mark : String) : List (String × List (String × Value)) :=
  (schema.unlistedNames mark).map fun n => (n, [])

/-- **All collections of a schema** with their entries. -/
def arrivals (mark : String) : List (String × List (String × Value)) :=
  schema.listings ++ schema.unlistings mark

/-- **The fields of a collection**: those of its entry, then those beside it. -/
def fieldsOf (p : String × List (String × Value)) : List RawField :=
  RawField.ofValue (Value.get p.2 "fields") ++ schema.beside p.1

/-- **A schema in which texts name everything** that has a name. -/
structure NamedByTexts : Prop where
  collections : ∀ v ∈ entriesOf schema, (v.part "collection").namesByText = true
  fields : ∀ v ∈ entriesOf schema, ∀ r ∈ RawField.ofValue (v.part "fields"),
    r.name.namesByText = true
  owners : ∀ r ∈ rawFields schema, (Value.get r.members "collection").namesByText = true
  detached : ∀ r ∈ rawFields schema, r.name.namesByText = true

instance : DecidablePred NamedByTexts := fun _ =>
  decidable_of_iff (_ ∧ _ ∧ _ ∧ _) ⟨fun h => ⟨h.1, h.2.1, h.2.2.1, h.2.2.2⟩,
    fun h => ⟨h.collections, h.fields, h.owners, h.detached⟩⟩

variable {schema} {mark : String}

theorem mem_unlistedNames {n : String} :
    n ∈ schema.unlistedNames mark ↔ n ∈ Table.arrived schema.detachments
      ∧ n ∉ schema.listedNames ∧ Naming.isMarked mark n = true := by
  simp [unlistedNames]

theorem map_fst_unlistings :
    (schema.unlistings mark).map Prod.fst = schema.unlistedNames mark := by
  unfold unlistings
  rw [List.map_map]
  exact List.map_id' _

/-- The names of all collections: those that are listed go first. -/
theorem arrived_arrivals :
    Table.arrived (schema.arrivals mark) = schema.listedNames ++ schema.unlistedNames mark := by
  unfold arrivals
  rw [Table.arrived_append_of_nodup, map_fst_unlistings]
  · rfl
  · rw [map_fst_unlistings]
    exact (Table.nodup_arrived _).filter _
  · rw [map_fst_unlistings]
    exact fun n hn => (mem_unlistedNames.mp hn).2.1

/-- The last entry of a listed name is its last one among all. -/
theorem lastOf_arrivals_of_listed {n : String} {entry : List (String × Value)}
    (h : Table.lastOf n schema.listings = some entry) :
    Table.lastOf n (schema.arrivals mark) = some entry := by
  have hlisted : n ∈ schema.listedNames :=
    Table.mem_arrived.mpr (List.mem_map_of_mem (Table.mem_of_lastOf h))
  have hnone : Table.lastOf n (schema.unlistings mark) = none := by
    refine Table.lastOf_eq_none fun hn => ?_
    rw [map_fst_unlistings] at hn
    exact (mem_unlistedNames.mp hn).2.1 hlisted
  rw [arrivals, Table.lastOf_append, hnone, h]
  rfl

theorem lastOf_arrivals_of_unlisted {n : String} (h : n ∈ schema.unlistedNames mark) :
    Table.lastOf n (schema.arrivals mark) = some [] := by
  have hsome : Table.lastOf n (schema.unlistings mark) = some [] := by
    cases hlast : Table.lastOf n (schema.unlistings mark) with
    | none => exact absurd (map_fst_unlistings ▸ h) (Table.lastOf_eq_none_iff.mp hlast)
    | some entry =>
      obtain ⟨m, -, hm⟩ := List.mem_map.mp (Table.mem_of_lastOf hlast)
      rw [(Prod.mk.inj hm).2]
  rw [arrivals, Table.lastOf_append, hsome]
  rfl

/-- Texts name the fields of every collection. -/
theorem NamedByTexts.of_mem_fieldsOf (h : schema.NamedByTexts)
    {p : String × List (String × Value)} (hp : p ∈ schema.arrivals mark) {r : RawField}
    (hr : r ∈ schema.fieldsOf p) : r.name.namesByText = true := by
  rcases List.mem_append.mp hr with hr | hr
  · rcases List.mem_append.mp hp with hp | hp
    · obtain ⟨v, hv, hp⟩ := List.mem_filterMap.mp hp
      obtain ⟨entry, hentry, hp⟩ := Option.bind_eq_some_iff.mp hp
      obtain ⟨n, -, hp⟩ := Option.bind_eq_some_iff.mp hp
      split at hp
      · cases hp
      · obtain rfl := Option.some.inj hp
        exact h.fields v hv r (part_of_members hentry "fields" ▸ hr)
    · -- a collection that is not listed has no fields of its own
      obtain ⟨n, -, rfl⟩ := List.mem_map.mp hp
      cases hr
  · obtain ⟨q, hq, rfl⟩ := List.mem_map.mp hr
    obtain ⟨r, hmem, hr⟩ := List.mem_filterMap.mp (List.mem_filter.mp hq).1
    obtain ⟨n, -, rfl⟩ := Option.map_eq_some_iff.mp hr
    exact h.detached r hmem

end Value

/-! ## The fields beside the collections -/

section Detached

/-- Joining fields one after the other keeps them in their order. -/
theorem foldl_join (ps : List (Name × RawField)) (d : Detached) :
    ps.foldl Detached.join (some d) = some { d with fields := d.fields ++ ps.map Prod.snd } := by
  induction ps generalizing d with
  | nil => simp
  | cons p ps ih =>
    show ps.foldl Detached.join (some { d with fields := d.fields ++ [p.2] }) = _
    simp [ih]

theorem keys_detach (t : Table Key Detached) (p : Name × RawField) (d : Detached) :
    (detach t p).keys = (t.insert p.1.key d).keys := by
  unfold detach
  by_cases hp : t.contains p.1.key = true
  · simp [hp, Table.keys_insert, Table.contains_iff_mem_keys.mp hp]
  · rw [if_neg hp, Table.keys_insert, Table.keys_insert]

variable {schema : Value}

/-- The owners of fields, which are named by texts, and what they own. -/
theorem gathered_eq (h : schema.NamedByTexts) :
    gathered (rawFields schema)
      = (schema.detachments.map fun p => (Name.text p.1, p.2)).foldl detach Table.empty := by
  unfold gathered Value.detachments
  refine congrArg (List.foldl detach Table.empty) ?_
  rw [List.map_filterMap]
  refine List.filterMap_congr fun r hr => ?_
  unfold RawField.owned?
  rw [Name.ofPresent_of_namesByText (h.owners r hr)]
  cases (Value.get r.members "collection").naming? <;> rfl

/-- Fields are gathered under the names of their owners, as these first appear. -/
theorem keys_gathered (h : schema.NamedByTexts) :
    (gathered (rawFields schema)).keys = (Table.arrived schema.detachments).map Key.text := by
  rw [gathered_eq h]
  induction schema.detachments using List.reverseRecOn with
  | nil => rfl
  | append_singleton ps p ih =>
    rw [List.map_append, List.foldl_append]
    show (detach _ (Name.text p.1, p.2)).keys = _
    rw [keys_detach _ _ ⟨.text p.1, []⟩]
    exact Table.keys_insert_of_arrived Key.text_injective ih p _

/-- **What an owner of fields owns.** -/
theorem find?_gathered_text (h : schema.NamedByTexts) (n : String) :
    (gathered (rawFields schema)).find? (.text n)
      = if schema.beside n = [] then none else some ⟨.text n, schema.beside n⟩ := by
  have howner : ∀ p ∈ schema.detachments.filter fun p => p.1 = n, p.1 = n := by
    simp
  have hfilter : (schema.detachments.map fun p => (Name.text p.1, p.2)).filter
        (fun p => p.1.key = .text n)
      = (schema.detachments.filter fun p => p.1 = n).map fun p => (Name.text p.1, p.2) := by
    rw [List.filter_map]
    refine congrArg _ (List.filter_congr fun p _ => ?_)
    show decide (Key.text p.1 = .text n) = _
    simp
  rw [gathered_eq h, find?_foldl_detach, hfilter]
  unfold Value.beside
  cases hps : schema.detachments.filter fun p => p.1 = n with
  | nil => rfl
  | cons p ps =>
    rw [List.map_cons, List.foldl_cons, ← howner p (hps ▸ List.mem_cons_self)]
    show (ps.map _).foldl Detached.join (some ⟨.text p.1, [p.2]⟩) = _
    rw [foldl_join]
    simp [Function.comp_def]

theorem detachedOf_gathered (h : schema.NamedByTexts) (n : String) :
    detachedOf (gathered (rawFields schema)) (.text n) = schema.beside n := by
  unfold detachedOf
  rw [Name.key_text, find?_gathered_text h]
  split
  · next hnone => rw [hnone]; rfl
  · rfl

/-- **All that is gathered**: the owners as they first appear, with what they own. -/
theorem values_gathered (h : schema.NamedByTexts) :
    (gathered (rawFields schema)).values
      = (Table.arrived schema.detachments).map fun n => ⟨.text n, schema.beside n⟩ := by
  refine Table.values_eq_map (keys_gathered h) fun n hn => ?_
  rw [find?_gathered_text h, if_neg]
  obtain ⟨p, hp, rfl⟩ := List.mem_map.mp (Table.mem_arrived.mp hn)
  exact List.ne_nil_of_mem (List.mem_map_of_mem (List.mem_filter.mpr ⟨hp, by simp⟩))

end Detached

/-! ## The stages -/

namespace Index

variable (mark : String) (flags : Flags) (schema : Value)

/-- **The collection that is made** under a name of its entry and its fields. -/
def made (p : String × List (String × Value)) : Except Misuse Collection :=
  Collection.ofEntry (.text mark) flags (.text p.1) p.2 (schema.fieldsOf p)

/-- An index that follows arrivals with the collections that are made of them. -/
abbrev FollowsMade (ps : List (String × List (String × Value))) (ix : Index) : Prop :=
  ix.Follows Key.text (fun n entry c => made mark flags schema (n, entry) = .ok c) ps

variable {mark flags schema}

theorem followsMade_empty : FollowsMade mark flags schema [] Table.empty :=
  Table.Follows.empty

/-- **A stage** that looks at one thing after the other puts collections in, so that the
index follows what the things stand for. -/
theorem follows_place {σ ν α : Type} [DecidableEq ν] {key : ν → Key}
    (hkey : Function.Injective key) {R : ν → α → Collection → Prop} {xs : List σ}
    {f : σ → Except Misuse (Option Collection)} {g : σ → Option (ν × α)}
    (hfg : ∀ x ∈ xs, ∃ c?, f x = .ok c?
      ∧ Option.Rel (fun p c => c.name.key = key p.1 ∧ R p.1 p.2 c) (g x) c?)
    {ps : List (ν × α)} {ix : Index} (hix : ix.Follows key R ps) :
    ((xs.filterMap fun x => given (f x)).foldl place ix).Follows key R
      (ps ++ xs.filterMap g) := by
  induction xs generalizing ps ix with
  | nil => simpa using hix
  | cons x xs ih =>
    obtain ⟨⟨c?, hc, hrel⟩, hfg⟩ := List.forall_mem_cons.mp hfg
    rw [List.filterMap_cons, List.filterMap_cons, hc]
    generalize g x = p? at hrel ⊢
    cases hrel with
    | none => exact ih hfg hix
    | @some p c hpc =>
      have hplace : (place ix c).Follows key R (ps ++ [p]) := by
        unfold place
        rw [hpc.1]
        exact hix.insert hkey hpc.2
      show Table.Follows key R (ps ++ p :: xs.filterMap g) _
      rw [List.append_cons]
      exact ih hfg hplace

/-- A stage that makes collections of what arrives, if all can be made, puts them in, so
that the index follows what arrives. -/
theorem follows_foldl_place {σ : Type} {xs : List σ}
    {f : σ → Except Misuse (Option Collection)} {g : σ → Option (String × List (String × Value))}
    (hfg : ∀ x ∈ xs, f x = (g x).elim (.ok none) fun p => (made mark flags schema p).map some)
    (hok : ∀ x ∈ xs, ∃ c?, f x = .ok c?) {ps : List (String × List (String × Value))} {ix : Index}
    (hix : ix.FollowsMade mark flags schema ps) :
    ((xs.filterMap fun x => given (f x)).foldl place ix).FollowsMade mark flags schema
      (ps ++ xs.filterMap g) := by
  refine follows_place Key.text_injective (fun x hx => ?_) hix
  obtain ⟨c?, hc⟩ := hok x hx
  refine ⟨c?, hc, ?_⟩
  rw [hfg x hx] at hc
  cases hgx : g x with
  | none =>
    rw [hgx] at hc
    obtain rfl := Except.ok.inj hc
    exact .none
  | some p =>
    rw [hgx] at hc
    obtain ⟨c, hmade, rfl⟩ := map_ok_iff.mp hc
    exact .some ⟨congrArg Name.key (Collection.name_of_ofEntry hmade), hmade⟩

/-- A stage goes well exactly if all collections can be made. -/
theorem exists_stage_iff {σ : Type} {xs : List σ} {f : σ → Except Misuse (Option Collection)}
    {g : σ → Option (String × List (String × Value))}
    (hfg : ∀ x ∈ xs, f x = (g x).elim (.ok none) fun p => (made mark flags schema p).map some) :
    (∀ x ∈ xs, ∃ c?, f x = .ok c?)
      ↔ ∀ p ∈ xs.filterMap g, ∃ c, made mark flags schema p = .ok c := by
  have hone : ∀ x ∈ xs, (∃ c?, f x = .ok c?)
      ↔ ∀ p, g x = some p → ∃ c, made mark flags schema p = .ok c := by
    intro x hx
    rw [hfg x hx]
    cases g x <;> simp [map_ok_iff]
  simp only [List.mem_filterMap]
  constructor
  · rintro h p ⟨x, hx, hp⟩
    exact (hone x hx).mp (h x hx) p hp
  · exact fun h x hx => (hone x hx).mpr fun p hp => h p ⟨x, hx, hp⟩

/-- The collection of an entry is made of what it lists. -/
theorem listed?_eq (h : schema.NamedByTexts) {v : Value} (hv : v ∈ entriesOf schema) :
    listed? (.text mark) flags (gathered (rawFields schema)) v
      = v.listing?.elim (.ok none) fun p => (made mark flags schema p).map some := by
  unfold listed? Listing.ofValue Value.listing?
  have hname := h.collections v hv
  cases hms : v.members? with
  | none => rfl
  | some entry =>
    rw [Value.part_of_members hms] at hname
    rw [Option.bind_some]
    dsimp only
    by_cases hpresent : (Value.get entry "collection").truthy = true
    · obtain ⟨n, hn, hnaming⟩ := Value.eq_text_of_namesByText hname hpresent
      rw [hnaming, Option.bind_some, hpresent]
      cases isFolder entry with
      | true => rfl
      | false =>
        rw [hn]
        show (Collection.ofEntry (.text mark) flags (.text n) entry
          (RawField.ofValue (Value.get entry "fields")
            ++ detachedOf (gathered (rawFields schema)) (.text n)) >>= fun c => pure (some c)) = _
        rw [detachedOf_gathered h]
        exact bind_pure_comp some _
    · rw [Value.naming?_of_not_truthy (by simpa using hpresent), Bool.eq_false_iff.mpr hpresent]
      rfl

/-- The collection that an owner of fields makes known is made of these, unless it is
listed or not the host's. -/
theorem unlisted?_eq {listed : Index}
    (hlisted : listed.FollowsMade mark flags schema schema.listings) (n : String) :
    unlisted? (.text mark) flags listed ⟨.text n, schema.beside n⟩
      = (if n ∉ schema.listedNames ∧ Naming.isMarked mark n = true then some (n, []) else none).elim
          (.ok none) fun p => (made mark flags schema p).map some := by
  have hcontains : listed.contains (.text n) = true ↔ n ∈ schema.listedNames :=
    hlisted.contains_iff Key.text_injective
  unfold unlisted?
  rw [Name.key_text, Name.value, Naming.isMarkedOf_text]
  by_cases hn : n ∈ schema.listedNames
  · simp [hn, hcontains]
  · cases hmarked : Naming.isMarked mark n with
    | false => simp [hn, hcontains, bind, Except.bind, pure, Except.pure]
    | true =>
      rw [if_neg (fun h => hn (hcontains.mp h)), if_pos ⟨hn, rfl⟩]
      show (Collection.ofEntry (.text mark) flags (.text n) [] (schema.beside n)
        >>= fun c => pure (some c)) = _
      exact bind_pure_comp some _

/-- Which owners of fields make a collection known. -/
theorem filterMap_unlisted :
    ((Table.arrived schema.detachments).filterMap fun n =>
        if n ∉ schema.listedNames ∧ Naming.isMarked mark n = true then some (n, []) else none)
      = schema.unlistings mark := by
  unfold Value.unlistings Value.unlistedNames
  rw [← List.filterMap_eq_filter, List.map_filterMap]
  refine congrArg (List.filterMap · _) (funext fun n => ?_)
  by_cases hn : n ∉ schema.listedNames ∧ Naming.isMarked mark n = true
  · simp [hn, Option.guard]
  · rw [if_neg hn]
    simp [hn, Option.guard]

section Stages

variable (h : schema.NamedByTexts) {detached : Table Key Detached} {listed ix : Index}
include h

/-- The first stage follows the listed collections. -/
theorem Stages.followsMade_listed (hix : Stages (.text mark) flags schema detached listed ix) :
    listed.FollowsMade mark flags schema schema.listings := by
  obtain ⟨-, rfl, hentries, rfl, -, -⟩ := hix
  exact follows_foldl_place (fun v hv => listed?_eq h hv) hentries followsMade_empty

/-- The second stage follows all collections. -/
theorem Stages.followsMade (hix : Stages (.text mark) flags schema detached listed ix) :
    ix.FollowsMade mark flags schema (schema.arrivals mark) := by
  have hlisted := hix.followsMade_listed h
  obtain ⟨-, rfl, -, -, hvalues, rfl⟩ := hix
  unfold withUnlisted Value.arrivals
  rw [values_gathered h, List.forall_mem_map] at hvalues
  rw [values_gathered h, List.filterMap_map, ← filterMap_unlisted]
  exact follows_foldl_place (fun n _ => unlisted?_eq hlisted n) hvalues hlisted

/-- Texts name everything in the index. -/
theorem textual_ofSchema (hix : (ofSchema (.text mark) flags schema).outcome = .ok ix) :
    ix.Textual := by
  obtain ⟨detached, listed, hstages⟩ := ofSchema_ok_iff.mp hix
  intro key c hc
  obtain ⟨n, entry, hlast, hmade⟩ := (hstages.followsMade h).exists_of_find? Key.text_injective hc
  have hfields : ∀ r ∈ schema.fieldsOf (n, entry), r.name.namesByText = true := fun r hr =>
    h.of_mem_fieldsOf (Table.mem_of_lastOf hlast) hr
  exact (Collection.built_ofEntry hfields hmade).textual

/-- **A schema is indexed** exactly if all its collections can be made. -/
theorem exists_ofSchema_iff :
    (∃ ix, (ofSchema (.text mark) flags schema).outcome = .ok ix)
      ↔ ∀ p ∈ schema.arrivals mark, ∃ c, made mark flags schema p = .ok c := by
  have hentries : (∀ v ∈ entriesOf schema,
        ∃ c?, listed? (.text mark) flags (gathered (rawFields schema)) v = .ok c?)
      ↔ ∀ p ∈ schema.listings, ∃ c, made mark flags schema p = .ok c :=
    exists_stage_iff fun v hv => listed?_eq h hv
  have hvalues : ∀ {listed : Index}, listed.FollowsMade mark flags schema schema.listings →
      ((∀ d ∈ (gathered (rawFields schema)).values,
          ∃ c?, unlisted? (.text mark) flags listed d = .ok c?)
        ↔ ∀ p ∈ schema.unlistings mark, ∃ c, made mark flags schema p = .ok c) := by
    intro listed hlisted
    rw [values_gathered h, List.forall_mem_map, ← filterMap_unlisted]
    exact exists_stage_iff fun n _ => unlisted?_eq hlisted n
  simp only [ofSchema_ok_iff, Value.arrivals, List.forall_mem_append]
  constructor
  · rintro ⟨ix, detached, listed, hix⟩
    have hlisted := hix.followsMade_listed h
    obtain ⟨-, rfl, hlistings, -, hunlistings, -⟩ := hix
    exact ⟨hentries.mp hlistings, (hvalues hlisted).mp hunlistings⟩
  · rintro ⟨hlistings, hunlistings⟩
    have howned : ∀ r ∈ rawFields schema, ∃ p?, r.owned? = .ok p? := fun r hr =>
      ⟨_, by rw [RawField.owned?, Name.ofPresent_of_namesByText (h.owners r hr)]; rfl⟩
    have hlisted := follows_foldl_place (fun v hv => listed?_eq h hv)
      (hentries.mpr hlistings) followsMade_empty
    exact ⟨_, _, _, howned, rfl, hentries.mpr hlistings, rfl,
      (hvalues hlisted).mpr hunlistings, rfl⟩

end Stages

/-! ## The result -/

/-- **The index that a schema has**: which collections there are, in which order, and
what each is built from. -/
structure Exact (mark : String) (flags : Flags) (schema : Value) (ix : Index) : Prop where
  /-- The listed collections, as they first appear, go before the host's that are
  known by their fields only. -/
  keys_eq : ix.keys = (schema.listedNames ++ schema.unlistedNames mark).map Key.text
  /-- A listed collection is built from the last entry of its name, and from the fields of
  the entry before those beside it. -/
  listed : ∀ n entry, Table.lastOf n schema.listings = some entry →
    ∃ c, ix.find? (.text n) = some c ∧ c.Built mark flags n entry
      (RawField.ofValue (Value.get entry "fields") ++ schema.beside n)
  /-- A collection that is not listed is built from the fields that it owns. -/
  unlisted : ∀ n ∈ schema.unlistedNames mark,
    ∃ c, ix.find? (.text n) = some c ∧ c.Built mark flags n [] (schema.beside n)
  /-- Nothing comes of owners that are neither listed nor the host's. -/
  strays : ∀ n, n ∉ schema.listedNames → Naming.isMarked mark n = false →
    ix.find? (.text n) = none
  /-- Everything stands under its own name. -/
  keyed : ix.Keyed (.text mark)

/-- What is made of what arrives is built from it. -/
theorem FollowsMade.exists_built (h : schema.NamedByTexts) {ix : Index}
    (hix : ix.FollowsMade mark flags schema (schema.arrivals mark)) {n : String}
    {entry : List (String × Value)}
    (hlast : Table.lastOf n (schema.arrivals mark) = some entry) :
    ∃ c, ix.find? (.text n) = some c
      ∧ c.Built mark flags n entry (schema.fieldsOf (n, entry)) := by
  obtain ⟨c, hfind, hmade⟩ := hix.last n entry hlast
  exact ⟨c, hfind, Collection.built_ofEntry
    (fun r hr => h.of_mem_fieldsOf (Table.mem_of_lastOf hlast) hr) hmade⟩

/-- **Indexing is exact.** A schema in which texts name everything is indexed unless a
field that is read has a tag that is a list or an object; and the index has the
collections that the schema lists and those that its detached fields make known, in the
order of their first appearance, each built from the last entry of its name and from
its fields. -/
theorem indexing_is_exact (mark : String) (flags : Flags) {schema : Value}
    (h : schema.NamedByTexts) :
    ((∃ ix, (ofSchema (.text mark) flags schema).outcome = .ok ix)
        ↔ ∀ p ∈ schema.arrivals mark, ∀ r ∈ schema.fieldsOf p, r.TagFits)
      ∧ ∀ ix, (ofSchema (.text mark) flags schema).outcome = .ok ix →
          ix.Exact mark flags schema := by
  constructor
  · rw [exists_ofSchema_iff h]
    exact forall₂_congr fun p hp =>
      Collection.exists_ofEntry_iff fun r hr => h.of_mem_fieldsOf hp hr
  · intro ix hix
    obtain ⟨detached, listed, hstages⟩ := ofSchema_ok_iff.mp hix
    have hfollows := hstages.followsMade h
    have hkeys : ix.keys = (schema.listedNames ++ schema.unlistedNames mark).map Key.text := by
      rw [← Value.arrived_arrivals]
      exact hfollows.keys_eq
    exact {
      keys_eq := hkeys
      listed := fun n entry hlast =>
        FollowsMade.exists_built h hfollows (Value.lastOf_arrivals_of_listed hlast)
      unlisted := fun n hn =>
        FollowsMade.exists_built h hfollows (Value.lastOf_arrivals_of_unlisted hn)
      strays := fun n hlisted hmarked => by
        simp [Table.find?_eq_none_iff, hkeys, hlisted, Value.mem_unlistedNames, hmarked]
      keyed := keyed_ofSchema hix }

end Index

/-! ### A medley -/

/-- Collections listed twice, a folder and an entry without a name; and fields beside
them of a listed collection, of one of the host's and of one that nobody lists. -/
def Value.medley : Value := .object
  [("collections", .list [
      .object [("collection", .text "tags"), ("fields", .object [("label", .object [])])],
      .object [("collection", .text "drafts"), ("schema", .null)],
      .object [("note", .text "nothing")],
      .object [("collection", .text "posts")],
      .object [("collection", .text "tags"), ("primary", .text ""),
        ("fields", .list [.object [("field", .text "title"), ("type", .text "string")],
          .object [("field", .text "slug")], .null])]]),
    ("fields", .list [
      .object [("collection", .text "directus_users"), ("field", .text "email")],
      .object [("collection", .text "tags"), ("field", .text "slug"),
        ("schema", .object [("is_primary_key", .bool true)])],
      .object [("collection", .text "ghosts"), ("field", .text "name")]])]

/-- In the medley two collections are listed and one is the host's. -/
theorem medley_is_indexed :
    Value.medley.NamedByTexts
      ∧ ∃ ix, (Index.ofSchema (.text "directus_") Table.empty Value.medley).outcome = .ok ix
        ∧ ix.Exact "directus_" Table.empty Value.medley
        ∧ ix.keys = [.text "tags", .text "posts", .text "directus_users"] := by
  have hnames : Value.medley.NamedByTexts := by decide +kernel
  have hexact := Index.indexing_is_exact "directus_" Table.empty hnames
  obtain ⟨ix, hix⟩ := hexact.1.mpr (by decide +kernel)
  have hkeys : Value.medley.listedNames ++ Value.medley.unlistedNames "directus_"
      = ["tags", "posts", "directus_users"] := by decide +kernel
  refine ⟨hnames, ix, hix, hexact.2 ix hix, ?_⟩
  rw [(hexact.2 ix hix).keys_eq, hkeys]
  rfl

end CollectionTypes
