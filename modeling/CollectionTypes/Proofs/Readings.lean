import CollectionTypes.Proofs.Entries
import Mathlib.Data.List.Nodup

/-!
# What a reader sees of a table

Two tables have the same entries, in some order, exactly if a reader sees the
same under every key (`Table.perm_entries_iff`). Of writes in a row a reader
sees the last one to a key (`Table.find?_foldl_insert`), and of values put
through with their keys the value under the key (`Table.find?_mapEntries`).
-/

namespace CollectionTypes.Table

variable {κ α β : Type} [DecidableEq κ]

/-! ## Entries in some order -/

theorem lookup_eq_some_iff {k : κ} {v : α} {es : List (κ × α)}
    (hd : (es.map Prod.fst).Nodup) : lookup k es = some v ↔ (k, v) ∈ es :=
  ⟨mem_entries_of_lookup, lookup_entry hd⟩

/-- Where no key occurs twice, the order of entries does not matter. -/
theorem lookup_eq_of_perm {es es' : List (κ × α)} (h : es.Perm es')
    (hd : (es.map Prod.fst).Nodup) (k : κ) : lookup k es = lookup k es' := by
  have hd' : (es'.map Prod.fst).Nodup := (h.map Prod.fst).nodup_iff.mp hd
  refine Option.ext fun v => ?_
  rw [lookup_eq_some_iff hd, lookup_eq_some_iff hd', h.mem_iff]

omit [DecidableEq κ] in
theorem nodup_entries (t : Table κ α) : t.entries.Nodup :=
  .of_map Prod.fst t.distinct

/-- **Tables have the same entries**, in some order, exactly if a reader sees
the same under every key. -/
theorem perm_entries_iff {t u : Table κ α} :
    t.entries.Perm u.entries ↔ ∀ k, t.find? k = u.find? k := by
  constructor
  · exact fun h => lookup_eq_of_perm h t.distinct
  · intro h
    refine (List.perm_ext_iff_of_nodup t.nodup_entries u.nodup_entries).mpr ?_
    rintro ⟨k, v⟩
    rw [← find?_eq_some_iff, ← find?_eq_some_iff, h]

/-! ## Writes in a row -/

theorem lookup_append (k : κ) (es es' : List (κ × α)) :
    lookup k (es ++ es') = (lookup k es).or (lookup k es') := by
  induction es with
  | nil => rfl
  | cons e es ih =>
    rw [List.cons_append, lookup, lookup, ih]
    split <;> rfl

/-- The last value that comes with a key. -/
def lastOf (k : κ) (es : List (κ × α)) : Option α :=
  lookup k es.reverse

theorem lastOf_append (k : κ) (es es' : List (κ × α)) :
    lastOf k (es ++ es') = (lastOf k es').or (lastOf k es) := by
  unfold lastOf
  rw [List.reverse_append, lookup_append]

theorem lastOf_cons (k : κ) (e : κ × α) (es : List (κ × α)) :
    lastOf k (e :: es) = (lastOf k es).or (if e.1 = k then some e.2 else none) :=
  lastOf_append k [e] es

/-- A value that comes with another key does not count. -/
theorem lastOf_cons_of_ne {k : κ} {e : κ × α} (h : e.1 ≠ k) (es : List (κ × α)) :
    lastOf k (e :: es) = lastOf k es := by
  rw [lastOf_cons, if_neg h, Option.or_none]

theorem mem_of_lastOf {k : κ} {v : α} {es : List (κ × α)} (h : lastOf k es = some v) :
    (k, v) ∈ es :=
  List.mem_reverse.mp (mem_entries_of_lookup h)

theorem lastOf_eq_none {k : κ} {es : List (κ × α)} (h : k ∉ es.map Prod.fst) :
    lastOf k es = none := by
  refine Option.eq_none_iff_forall_ne_some.mpr fun v hv => h ?_
  exact List.mem_map_of_mem (mem_of_lastOf hv)

/-- Where no key occurs twice, the last value is the only one. -/
theorem lastOf_eq_of_perm {es es' : List (κ × α)} (h : es.Perm es')
    (hd : (es.map Prod.fst).Nodup) (k : κ) : lastOf k es = lastOf k es' := by
  have hd' : (es.reverse.map Prod.fst).Nodup :=
    (es.reverse_perm.map Prod.fst).nodup_iff.mpr hd
  exact lookup_eq_of_perm (es.reverse_perm.trans (h.trans es'.reverse_perm.symm)) hd' k

theorem lastOf_eq_none_iff {k : κ} {es : List (κ × α)} :
    lastOf k es = none ↔ k ∉ es.map Prod.fst := by
  refine ⟨fun h hk => ?_, lastOf_eq_none⟩
  induction es with
  | nil => cases hk
  | cons e es ih =>
    rw [lastOf_cons, Option.or_eq_none_iff] at h
    rcases List.mem_cons.mp hk with rfl | hk
    · rw [if_pos rfl] at h
      cases h.2
    · exact ih h.1 hk

/-- **Where things come in the order of their texts**, the last value with a
key is that of the thing with the greatest text of those that come with it. -/
theorem lastOf_filterMap_eq_some_iff {σ : Type} {f : σ → String} {g : σ → Option (κ × α)}
    {as : List σ} (hasc : as.Pairwise fun a b => f a < f b) {k : κ} {v : α} :
    lastOf k (as.filterMap g) = some v
      ↔ ∃ a ∈ as, g a = some (k, v) ∧ ∀ b ∈ as, ∀ w, g b = some (k, w) → f b ≤ f a := by
  induction as with
  | nil =>
    refine ⟨fun h => ?_, fun ⟨_, h, _⟩ => absurd h List.not_mem_nil⟩
    cases h
  | cons a as ih =>
    obtain ⟨hbehind, hasc⟩ := List.pairwise_cons.mp hasc
    have hcons : lastOf k ((a :: as).filterMap g)
        = (lastOf k (as.filterMap g)).or ((g a).bind fun e => if e.1 = k then some e.2 else none) := by
      rw [List.filterMap_cons]
      cases g a with
      | none => exact Option.or_none.symm
      | some e => exact lastOf_cons k e _
    rw [hcons, Option.or_eq_some_iff, ih hasc]
    constructor
    · rintro (⟨b, hb, hvalue, hgreatest⟩ | ⟨hnone, hvalue⟩)
      · refine ⟨b, List.mem_cons_of_mem _ hb, hvalue, ?_⟩
        refine List.forall_mem_cons.mpr ⟨fun _ _ => ?_, hgreatest⟩
        exact String.not_lt.mp (String.lt_asymm (hbehind b hb))
      · obtain ⟨e, he, hsame⟩ := Option.bind_eq_some_iff.mp hvalue
        split at hsame
        · next hkey =>
          cases hsame
          refine ⟨a, List.mem_cons_self, hkey ▸ he, ?_⟩
          refine List.forall_mem_cons.mpr ⟨fun _ _ => String.le_refl _, fun b hb w hw => ?_⟩
          -- nothing behind comes with the key
          have hmem : (k, w) ∈ as.filterMap g := List.mem_filterMap.mpr ⟨b, hb, hw⟩
          exact absurd (List.mem_map_of_mem hmem) (lastOf_eq_none_iff.mp hnone)
        · cases hsame
    · rintro ⟨b, hb, hvalue, hgreatest⟩
      rcases List.mem_cons.mp hb with rfl | hb
      · refine .inr ⟨lastOf_eq_none fun hkey => ?_, ?_⟩
        · obtain ⟨e, he, rfl⟩ := List.mem_map.mp hkey
          obtain ⟨b', hb', hw⟩ := List.mem_filterMap.mp he
          exact String.not_le.mpr (hbehind b' hb')
            (hgreatest b' (List.mem_cons_of_mem _ hb') e.2 hw)
        · rw [hvalue]
          exact if_pos rfl
      · exact .inl ⟨b, hb, hvalue, fun b' hb' => hgreatest b' (List.mem_cons_of_mem _ hb')⟩

/-- **The last write to a key is what a reader sees.** -/
theorem find?_foldl_insert (es : List (κ × α)) (t : Table κ α) (k : κ) :
    (es.foldl (fun t e => t.insert e.1 e.2) t).find? k = (lastOf k es).or (t.find? k) := by
  induction es generalizing t with
  | nil => rfl
  | cons e es ih =>
    rw [List.foldl_cons, ih, find?_insert, lastOf_cons, Option.or_assoc]
    split <;> rfl

/-! ## Values put through with their keys -/

/-- The table with every value put through together with its key. -/
def mapEntries (g : κ → α → β) (t : Table κ α) : Table κ β where
  entries := t.entries.map fun e => (e.1, g e.1 e.2)
  distinct := by
    rw [List.map_map]
    exact t.distinct

omit [DecidableEq κ] in
@[simp] theorem entries_mapEntries (g : κ → α → β) (t : Table κ α) :
    (t.mapEntries g).entries = t.entries.map fun e => (e.1, g e.1 e.2) := rfl

theorem lookup_map (g : κ → α → β) (k : κ) (es : List (κ × α)) :
    lookup k (es.map fun e => (e.1, g e.1 e.2)) = (lookup k es).map (g k) := by
  induction es with
  | nil => rfl
  | cons e es ih =>
    rw [List.map_cons, lookup, lookup, ih]
    split
    · next h => rw [h]; rfl
    · rfl

/-- **A reader sees the value under the key put through.** -/
theorem find?_mapEntries (g : κ → α → β) (t : Table κ α) (k : κ) :
    (t.mapEntries g).find? k = (t.find? k).map (g k) :=
  lookup_map g k t.entries

omit [DecidableEq κ] in
theorem mapEntries_mapEntries {γ : Type} (g : κ → α → β) (g' : κ → β → γ) (t : Table κ α) :
    (t.mapEntries g).mapEntries g' = t.mapEntries fun k v => g' k (g k v) := by
  apply ext
  rw [entries_mapEntries, entries_mapEntries, entries_mapEntries, List.map_map]
  rfl

omit [DecidableEq κ] in
theorem mapEntries_id (t : Table κ α) : (t.mapEntries fun _ v => v) = t :=
  ext (List.map_id' t.entries)

/-- A change under one key, as a change of every value. -/
theorem modify_eq_mapEntries (t : Table κ α) (k : κ) (f : α → α) :
    t.modify k f = t.mapEntries fun k' v => if k' = k then f v else v := by
  apply ext
  rw [entries_modify, entries_mapEntries]
  refine List.map_congr_left fun e _ => ?_
  split <;> rfl

end CollectionTypes.Table
