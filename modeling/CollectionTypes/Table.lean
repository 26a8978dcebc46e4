/-!
# Tables in order of arrival

A `Table` maps keys to values and remembers the order in which the keys
first arrived. Writing to a key that is already there keeps its place and
replaces its value; a new key goes to the end. That each key occurs once
is part of the type, so it never has to be assumed.

`find?` reads a key, `insert` writes one, `modify` changes the value under
one, `erase` takes one out and `merge` writes the entries of a second
table one after the other. The lemmas state what each of these does to the
keys (`keys_insert`, `keys_modify`) and to what a reader sees
(`find?_insert`, `find?_modify`).
-/

namespace CollectionTypes

/-- **Entries in order of arrival**, each key at most once. -/
structure Table (κ α : Type) where
  /-- The entries, oldest key first. -/
  entries : List (κ × α)
  /-- No key occurs twice. -/
  distinct : (entries.map Prod.fst).Nodup := by simp

namespace Table

variable {κ α : Type}

/-- The table without entries. -/
def empty : Table κ α where
  entries := []

instance : Inhabited (Table κ α) := ⟨empty⟩

/-- The keys, in order of arrival. -/
def keys (t : Table κ α) : List κ :=
  t.entries.map Prod.fst

/-- The values, in the order of their keys. -/
def values (t : Table κ α) : List α :=
  t.entries.map Prod.snd

/-- How many keys there are. -/
def size (t : Table κ α) : Nat :=
  t.entries.length

theorem keys_nodup (t : Table κ α) : t.keys.Nodup :=
  t.distinct

variable [DecidableEq κ]

/-- The value under a key among entries. -/
def lookup (k : κ) : List (κ × α) → Option α
  | [] => none
  | (k', v) :: rest => if k' = k then some v else lookup k rest

/-- The value under a key. -/
def find? (t : Table κ α) (k : κ) : Option α :=
  lookup k t.entries

/-- Whether a key has a value. -/
def contains (t : Table κ α) (k : κ) : Bool :=
  (t.find? k).isSome

/-- Entries with one key written: in place if it is there, else at the end. -/
def put (k : κ) (v : α) : List (κ × α) → List (κ × α)
  | [] => [(k, v)]
  | (k', v') :: rest => if k' = k then (k', v) :: rest else (k', v') :: put k v rest

theorem mem_keys_put {k : κ} {v : α} {es : List (κ × α)} {k' : κ} :
    k' ∈ (put k v es).map Prod.fst ↔ k' = k ∨ k' ∈ es.map Prod.fst := by
  induction es with
  | nil => simp [put]
  | cons e rest ih =>
    obtain ⟨e, w⟩ := e
    by_cases h : e = k
    · subst h; simp [put]
    · simp only [put, h, if_false, List.map_cons, List.mem_cons, ih]
      grind

theorem nodup_put {k : κ} {v : α} {es : List (κ × α)}
    (h : (es.map Prod.fst).Nodup) : ((put k v es).map Prod.fst).Nodup := by
  induction es with
  | nil => simp [put]
  | cons e rest ih =>
    obtain ⟨e, w⟩ := e
    simp only [List.map_cons, List.nodup_cons] at h
    by_cases he : e = k
    · rw [put, if_pos he, List.map_cons, List.nodup_cons]
      exact h
    · rw [put, if_neg he, List.map_cons, List.nodup_cons, mem_keys_put]
      refine ⟨fun hm => ?_, ih h.2⟩
      rcases hm with hm | hm
      · exact he hm
      · exact h.1 hm

/-- **Write a value**: a known key keeps its place, a new one goes last. -/
def insert (t : Table κ α) (k : κ) (v : α) : Table κ α where
  entries := put k v t.entries
  distinct := nodup_put t.distinct

/-- Entries with the value under one key changed. -/
def change (k : κ) (f : α → α) : List (κ × α) → List (κ × α)
  | [] => []
  | (k', v) :: rest => if k' = k then (k', f v) :: rest else (k', v) :: change k f rest

theorem keys_change (k : κ) (f : α → α) (es : List (κ × α)) :
    (change k f es).map Prod.fst = es.map Prod.fst := by
  induction es with
  | nil => rfl
  | cons e rest ih => by_cases h : e.1 = k <;> simp [change, h, ih]

/-- **Change the value under a key**; an absent key changes nothing. -/
def modify (t : Table κ α) (k : κ) (f : α → α) : Table κ α where
  entries := change k f t.entries
  distinct := by simpa [keys_change] using t.distinct

/-- The table without one key. -/
def erase (t : Table κ α) (k : κ) : Table κ α where
  entries := t.entries.filter (fun e => e.1 ≠ k)
  distinct := t.distinct.sublist (List.filter_sublist.map Prod.fst)

/-- Write every entry of `u` into `t`, one after the other. -/
def merge (t u : Table κ α) : Table κ α :=
  u.entries.foldl (fun t e => t.insert e.1 e.2) t

/-! ## What a reader sees -/

theorem lookup_put (k k' : κ) (v : α) (es : List (κ × α)) :
    lookup k' (put k v es) = if k = k' then some v else lookup k' es := by
  induction es with
  | nil => simp [put, lookup]
  | cons e rest ih =>
    obtain ⟨e, w⟩ := e
    by_cases he : e = k
    · subst he; by_cases hk : e = k' <;> simp [put, lookup, hk]
    · by_cases hk : e = k'
      · subst hk; simp [put, lookup, he, Ne.symm he]
      · simp [put, lookup, he, hk, ih]

/-- After a write, the key written reads the new value and every other key
reads what it did. -/
theorem find?_insert (t : Table κ α) (k k' : κ) (v : α) :
    (t.insert k v).find? k' = if k = k' then some v else t.find? k' :=
  lookup_put k k' v t.entries

theorem lookup_change (k k' : κ) (f : α → α) (es : List (κ × α)) :
    lookup k' (change k f es)
      = if k = k' then (lookup k' es).map f else lookup k' es := by
  induction es with
  | nil => simp [change, lookup]
  | cons e rest ih =>
    obtain ⟨e, w⟩ := e
    by_cases he : e = k
    · subst he; by_cases hk : e = k' <;> simp [change, lookup, hk]
    · by_cases hk : e = k'
      · subst hk; simp [change, lookup, he, Ne.symm he]
      · simp [change, lookup, he, hk, ih]

theorem find?_modify (t : Table κ α) (k k' : κ) (f : α → α) :
    (t.modify k f).find? k' = if k = k' then (t.find? k').map f else t.find? k' :=
  lookup_change k k' f t.entries

@[simp] theorem keys_modify (t : Table κ α) (k : κ) (f : α → α) :
    (t.modify k f).keys = t.keys :=
  keys_change k f t.entries

theorem keys_put (k : κ) (v : α) (es : List (κ × α)) :
    (put k v es).map Prod.fst
      = if k ∈ es.map Prod.fst then es.map Prod.fst else es.map Prod.fst ++ [k] := by
  induction es with
  | nil => simp [put]
  | cons e rest ih =>
    obtain ⟨e, w⟩ := e
    by_cases he : e = k
    · simp [put, he]
    · simp only [put, he, if_false, List.map_cons, List.mem_cons, Ne.symm he, false_or, ih]
      split <;> simp

/-- A known key keeps its place, a new one goes last. -/
theorem keys_insert (t : Table κ α) (k : κ) (v : α) :
    (t.insert k v).keys = if k ∈ t.keys then t.keys else t.keys ++ [k] :=
  keys_put k v t.entries

end Table

end CollectionTypes
