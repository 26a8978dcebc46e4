import CollectionTypes.Table
import Mathlib.Data.List.Perm.Basic

/-!
# Tables and their entries

Since a table holds each key once, reading a key and looking through the
entries come to the same (`find?_eq_some_iff`). What holds of every entry
is therefore kept by a write of an entry of which it holds, and by a change
that keeps it (`All.insert`, `All.modify`); this is how whatever holds of
every collection of an index, or of every field of a collection, is carried
through a run.

A new key is written behind all others, and a change shows in every entry
of its key (`entries_insert_of_notMem`, `entries_modify`).
-/

namespace CollectionTypes.Table

variable {κ α : Type} [DecidableEq κ]

/-! ## Reading and looking through -/

theorem mem_entries_of_lookup {k : κ} {v : α} {es : List (κ × α)}
    (h : lookup k es = some v) : (k, v) ∈ es := by
  induction es with
  | nil => cases h
  | cons e rest ih =>
    obtain ⟨e, w⟩ := e
    rw [lookup] at h
    split at h
    · next he =>
      cases h
      rw [he]
      exact List.mem_cons_self
    · exact List.mem_cons_of_mem _ (ih h)

theorem lookup_entry {k : κ} {v : α} {es : List (κ × α)}
    (hd : (es.map Prod.fst).Nodup) (h : (k, v) ∈ es) : lookup k es = some v := by
  induction es with
  | nil => cases h
  | cons e rest ih =>
    obtain ⟨e, w⟩ := e
    rw [List.map_cons, List.nodup_cons] at hd
    rw [lookup]
    rcases List.mem_cons.mp h with h | h
    · cases h
      exact if_pos rfl
    · -- the key stands further on, so it is not the first one
      have hk : k ∈ rest.map Prod.fst := List.mem_map.mpr ⟨_, h, rfl⟩
      have hne : e ≠ k := fun he => hd.1 (by rw [he]; exact hk)
      rw [if_neg hne]
      exact ih hd.2 h

/-- **A key reads a value** exactly where the two are an entry. -/
theorem find?_eq_some_iff {t : Table κ α} {k : κ} {v : α} :
    t.find? k = some v ↔ (k, v) ∈ t.entries :=
  ⟨mem_entries_of_lookup, lookup_entry t.distinct⟩

theorem contains_iff_mem_keys {t : Table κ α} {k : κ} :
    t.contains k = true ↔ k ∈ t.keys := by
  unfold contains keys
  rw [Option.isSome_iff_exists, List.mem_map]
  constructor
  · rintro ⟨v, hv⟩
    exact ⟨(k, v), find?_eq_some_iff.mp hv, rfl⟩
  · rintro ⟨⟨k', v⟩, he, rfl⟩
    exact ⟨v, find?_eq_some_iff.mpr he⟩

theorem find?_eq_none_iff {t : Table κ α} {k : κ} : t.find? k = none ↔ k ∉ t.keys := by
  rw [← contains_iff_mem_keys, contains, Option.not_isSome_iff_eq_none]

theorem mem_values_iff {t : Table κ α} {v : α} :
    v ∈ t.values ↔ ∃ k, t.find? k = some v := by
  unfold values
  rw [List.mem_map]
  constructor
  · rintro ⟨⟨k, v⟩, he, rfl⟩
    exact ⟨k, find?_eq_some_iff.mpr he⟩
  · rintro ⟨k, hk⟩
    exact ⟨(k, v), find?_eq_some_iff.mp hk, rfl⟩

/-! ## What holds of every entry -/

/-- **A property of every entry.** -/
def All (P : κ → α → Prop) (t : Table κ α) : Prop :=
  ∀ k v, t.find? k = some v → P k v

namespace All

variable {P : κ → α → Prop} {t : Table κ α}

theorem empty : All P (Table.empty : Table κ α) := by
  intro k v h
  cases h

/-- A write keeps what holds of the entry written. -/
theorem insert (ht : All P t) {k : κ} {v : α} (hv : P k v) : All P (t.insert k v) := by
  intro k' v' h
  rw [find?_insert] at h
  split at h
  · next hk =>
    cases h
    exact hk ▸ hv
  · exact ht k' v' h

/-- A change keeps what it keeps of the entry changed. -/
theorem modify (ht : All P t) {k : κ} {f : α → α} (hf : ∀ v, P k v → P k (f v)) :
    All P (t.modify k f) := by
  intro k' v' h
  rw [find?_modify] at h
  split at h
  · next hk =>
    obtain ⟨v, hv, rfl⟩ := Option.map_eq_some_iff.mp h
    subst hk
    exact hf v (ht k v hv)
  · exact ht k' v' h

theorem of_mem_entries (ht : All P t) {e : κ × α} (he : e ∈ t.entries) : P e.1 e.2 :=
  ht e.1 e.2 (find?_eq_some_iff.mpr he)

/-- Values that each tell their key tell the keys. -/
theorem map_values {f : α → κ} (ht : All (fun k v => f v = k) t) :
    t.values.map f = t.keys := by
  unfold values keys
  rw [List.map_map]
  exact List.map_congr_left fun e he => ht.of_mem_entries he

end All

/-! ## The entries after a write and a change -/

theorem put_of_notMem {k : κ} {v : α} {es : List (κ × α)} (h : k ∉ es.map Prod.fst) :
    put k v es = es ++ [(k, v)] := by
  induction es with
  | nil => rfl
  | cons e rest ih =>
    obtain ⟨e, w⟩ := e
    rw [List.map_cons, List.mem_cons, not_or] at h
    rw [put, if_neg (Ne.symm h.1), ih h.2]
    rfl

/-- **A new key goes last.** -/
theorem entries_insert_of_notMem {t : Table κ α} {k : κ} {v : α} (h : k ∉ t.keys) :
    (t.insert k v).entries = t.entries ++ [(k, v)] :=
  put_of_notMem h

theorem change_eq_map {k : κ} {f : α → α} {es : List (κ × α)}
    (hd : (es.map Prod.fst).Nodup) :
    change k f es = es.map fun e => if e.1 = k then (e.1, f e.2) else e := by
  induction es with
  | nil => rfl
  | cons e rest ih =>
    obtain ⟨e, w⟩ := e
    rw [List.map_cons, List.nodup_cons] at hd
    rw [change, List.map_cons, ← ih hd.2]
    split
    · next he =>
      -- behind the key changed there is none of it left
      have hrest : ∀ e' ∈ rest, e'.1 ≠ k := fun e' h' he' =>
        hd.1 (by rw [he, ← he']; exact List.mem_map.mpr ⟨e', h', rfl⟩)
      rw [ih hd.2, List.map_congr_left (fun e' h' => if_neg (hrest e' h')), List.map_id']
    · rfl

/-- **A change shows in every entry of its key** and in no other. -/
theorem entries_modify (t : Table κ α) (k : κ) (f : α → α) :
    (t.modify k f).entries = t.entries.map fun e => if e.1 = k then (e.1, f e.2) else e :=
  change_eq_map t.distinct

omit [DecidableEq κ] in
theorem ext {t u : Table κ α} (h : t.entries = u.entries) : t = u := by
  cases t
  cases u
  cases h
  rfl

/-- A change that leaves the value under its key as it is changes nothing. -/
theorem modify_eq_self {t : Table κ α} {k : κ} {f : α → α}
    (h : ∀ v, t.find? k = some v → f v = v) : t.modify k f = t := by
  apply ext
  rw [entries_modify]
  have hsame : ∀ e ∈ t.entries, (if e.1 = k then (e.1, f e.2) else e) = e := by
    intro e he
    split
    · next hk => rw [h e.2 (hk ▸ find?_eq_some_iff.mpr he)]
    · rfl
  rw [List.map_congr_left hsame, List.map_id']

theorem change_put (k : κ) (v : α) (f : α → α) (es : List (κ × α)) :
    change k f (put k v es) = put k (f v) es := by
  induction es with
  | nil => exact if_pos rfl
  | cons e rest ih =>
    obtain ⟨e, w⟩ := e
    rw [put, put]
    split
    · next h =>
      rw [change, if_pos h]
    · next h =>
      rw [change, if_neg h, ih]

/-- What has just been written is changed as it was written. -/
theorem modify_insert (t : Table κ α) (k : κ) (v : α) (f : α → α) :
    (t.insert k v).modify k f = t.insert k (f v) :=
  ext (change_put k v f t.entries)

/-- A change that a question does not notice changes no answer to it. -/
theorem any_values_modify {t : Table κ α} {k : κ} {f : α → α} {p : α → Bool}
    (hp : ∀ v, p (f v) = p v) : (t.modify k f).values.any p = t.values.any p := by
  unfold values
  rw [entries_modify, List.any_map, List.any_map, List.any_map]
  congr 1
  funext e
  show p (if e.1 = k then (e.1, f e.2) else e).2 = p e.2
  split
  · exact hp e.2
  · rfl

/-- **Keys that are all new go last**, in their order. -/
theorem entries_foldl_insert {β : Type} {key : β → κ} {val : β → α} {bs : List β}
    {t : Table κ α} (hd : (t.keys ++ bs.map key).Nodup) :
    (bs.foldl (fun t b => t.insert (key b) (val b)) t).entries
      = t.entries ++ bs.map fun b => (key b, val b) := by
  induction bs generalizing t with
  | nil => rw [List.map_nil, List.append_nil]; rfl
  | cons b bs ih =>
    have hnew : key b ∉ t.keys := by
      rw [List.map_cons, List.nodup_append] at hd
      exact fun h => hd.2.2 _ h _ List.mem_cons_self rfl
    have hentries := entries_insert_of_notMem (v := val b) hnew
    rw [List.foldl_cons, ih, hentries, List.append_assoc]
    · rfl
    · rw [keys, hentries, List.map_append, List.append_assoc]
      exact hd

/-! ## Some of the entries, and other values -/

/-- The entries whose values pass. -/
def only (p : α → Bool) (t : Table κ α) : Table κ α where
  entries := t.entries.filter fun e => p e.2
  distinct := t.distinct.sublist (List.filter_sublist.map Prod.fst)

/-- The table with every value put through. -/
def mapValues {β : Type} (g : α → β) (t : Table κ α) : Table κ β where
  entries := t.entries.map fun e => (e.1, g e.2)
  distinct := by
    rw [List.map_map]
    exact t.distinct

omit [DecidableEq κ] in
@[simp] theorem entries_only (p : α → Bool) (t : Table κ α) :
    (t.only p).entries = t.entries.filter fun e => p e.2 := rfl

omit [DecidableEq κ] in
@[simp] theorem entries_mapValues {β : Type} (g : α → β) (t : Table κ α) :
    (t.mapValues g).entries = t.entries.map fun e => (e.1, g e.2) := rfl

omit [DecidableEq κ] in
theorem values_only (p : α → Bool) (t : Table κ α) : (t.only p).values = t.values.filter p := by
  unfold only values
  rw [List.filter_map]
  rfl

omit [DecidableEq κ] in
theorem values_mapValues {β : Type} (g : α → β) (t : Table κ α) :
    (t.mapValues g).values = t.values.map g := by
  unfold mapValues values
  rw [List.map_map, List.map_map]
  rfl

/-- A change that no choice notices may come before it or after it. -/
theorem only_modify {p : α → Bool} {t : Table κ α} {k : κ} {f : α → α}
    (hp : ∀ v, p (f v) = p v) : (t.modify k f).only p = (t.only p).modify k f := by
  apply ext
  rw [entries_modify, entries_only, entries_only, entries_modify, List.filter_map]
  refine congrArg _ (List.filter_congr fun e _ => ?_)
  show p (if e.1 = k then (e.1, f e.2) else e).2 = p e.2
  split
  · exact hp e.2
  · rfl

theorem mapValues_modify {β : Type} {g : α → β} {t : Table κ α} {k : κ} {f : α → α}
    {f' : β → β} (h : ∀ v, g (f v) = f' (g v)) :
    (t.modify k f).mapValues g = (t.mapValues g).modify k f' := by
  apply ext
  rw [entries_modify, entries_mapValues, entries_mapValues, entries_modify, List.map_map,
    List.map_map]
  refine List.map_congr_left fun e _ => ?_
  show ((if e.1 = k then (e.1, f e.2) else e).1, g (if e.1 = k then (e.1, f e.2) else e).2)
    = if e.1 = k then (e.1, f' (g e.2)) else (e.1, g e.2)
  split
  · rw [h]
  · rfl

end CollectionTypes.Table
