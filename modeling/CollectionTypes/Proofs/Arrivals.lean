import CollectionTypes.Proofs.Readings
import Mathlib.Data.List.Induction

/-!
# Tables that follow arrivals

Things arrive one after the other, each with a name. A table *follows* them
(`Table.Follows`) if it has a key for each name, in the order in which the names
first arrived, and under it what the last thing of that name stands for. Writing
what one more thing stands for keeps a table following (`Follows.insert`), and
this is how a run of writes comes to follow a list.
-/

namespace CollectionTypes.Table

variable {ν κ α β : Type} [DecidableEq ν] [DecidableEq κ]

/-- **The names of arrivals**, each once, in the order in which they first come. -/
def arrived (ps : List (ν × α)) : List ν :=
  (ps.map Prod.fst).eraseDups

omit [DecidableEq κ] in
theorem mem_arrived {n : ν} {ps : List (ν × α)} : n ∈ arrived ps ↔ n ∈ ps.map Prod.fst :=
  List.mem_eraseDups

/-- **A known name keeps its place**, a new one goes last. -/
theorem arrived_append_singleton (ps : List (ν × α)) (p : ν × α) :
    arrived (ps ++ [p]) = if p.1 ∈ arrived ps then arrived ps else arrived ps ++ [p.1] := by
  simp only [mem_arrived]
  unfold arrived
  rw [List.map_append, List.eraseDups_append]
  split
  · next h => simp [List.removeAll, h]
  · next h => simp [List.removeAll, h, List.eraseDups_cons]

/-- New names that differ from each other go last, in their order. -/
theorem arrived_append_of_nodup (ps : List (ν × α)) {qs : List (ν × α)}
    (hd : (qs.map Prod.fst).Nodup) (hnew : ∀ n ∈ qs.map Prod.fst, n ∉ arrived ps) :
    arrived (ps ++ qs) = arrived ps ++ qs.map Prod.fst := by
  induction qs generalizing ps with
  | nil => rw [List.append_nil, List.map_nil, List.append_nil]
  | cons q qs ih =>
    rw [List.map_cons, List.nodup_cons] at hd
    rw [List.map_cons, List.forall_mem_cons] at hnew
    have hone : arrived (ps ++ [q]) = arrived ps ++ [q.1] := by
      rw [arrived_append_singleton, if_neg hnew.1]
    have hrest : ∀ n ∈ qs.map Prod.fst, n ∉ arrived (ps ++ [q]) := by
      intro n hn
      rw [hone, List.mem_append, List.mem_singleton, not_or]
      exact ⟨hnew.2 n hn, fun h => hd.1 (h ▸ hn)⟩
    rw [List.append_cons, ih (ps ++ [q]) hd.2 hrest, hone, List.map_cons, List.append_assoc,
      List.singleton_append]

theorem nodup_arrived (ps : List (ν × α)) : (arrived ps).Nodup := by
  induction ps using List.reverseRecOn with
  | nil => exact List.nodup_nil
  | append_singleton ps p ih =>
    rw [arrived_append_singleton]
    split
    · exact ih
    · next hnew => exact List.nodup_append.mpr ⟨ih, List.nodup_singleton _,
        fun a ha b hb => by rw [List.mem_singleton.mp hb]; exact fun h => hnew (h ▸ ha)⟩

/-- **A table that follows arrivals**: there is a key for each name, in the order in
which names first arrived, and under it what the last arrival of the name stands
for. -/
structure Follows (key : ν → κ) (R : ν → α → β → Prop) (ps : List (ν × α)) (t : Table κ β) :
    Prop where
  keys_eq : t.keys = (arrived ps).map key
  last : ∀ n a, lastOf n ps = some a → ∃ b, t.find? (key n) = some b ∧ R n a b

variable {key : ν → κ} {R : ν → α → β → Prop} {ps : List (ν × α)} {t : Table κ β}

/-- What writing a key makes of keys that stand for names. -/
theorem keys_insert_of_arrived (hkey : Function.Injective key) {t : Table κ β}
    (h : t.keys = (arrived ps).map key) (p : ν × α) (b : β) :
    (t.insert (key p.1) b).keys = (arrived (ps ++ [p])).map key := by
  have hmem : key p.1 ∈ (arrived ps).map key ↔ p.1 ∈ arrived ps :=
    List.mem_map_of_injective hkey
  rw [keys_insert, h, arrived_append_singleton]
  by_cases hp : p.1 ∈ arrived ps
  · rw [if_pos (hmem.mpr hp), if_pos hp]
  · rw [if_neg fun h => hp (hmem.mp h), if_neg hp, List.map_append]
    rfl

namespace Follows

theorem empty : Follows key R [] (Table.empty : Table κ β) :=
  ⟨rfl, fun _ _ h => by cases h⟩

/-- **One more arrival** is followed by writing what it stands for. -/
theorem insert (h : Follows key R ps t) (hkey : Function.Injective key) {p : ν × α} {b : β}
    (hb : R p.1 p.2 b) : Follows key R (ps ++ [p]) (t.insert (key p.1) b) := by
  refine ⟨keys_insert_of_arrived hkey h.keys_eq p b, fun n a hlast => ?_⟩
  rw [lastOf_append] at hlast
  rw [find?_insert]
  by_cases hn : p.1 = n
  · rw [lastOf_cons, if_pos hn] at hlast
    cases hlast
    exact ⟨b, if_pos (congrArg key hn), hn ▸ hb⟩
  · rw [lastOf_cons_of_ne hn] at hlast
    rw [if_neg fun h => hn (hkey h)]
    exact h.last n a hlast

theorem contains_iff (h : Follows key R ps t) (hkey : Function.Injective key) {n : ν} :
    t.contains (key n) = true ↔ n ∈ arrived ps := by
  rw [contains_iff_mem_keys, h.keys_eq, List.mem_map_of_injective hkey]

/-- What stands under a name is what the last arrival of the name stands for. -/
theorem exists_last (h : Follows key R ps t) (hkey : Function.Injective key) {n : ν} {b : β}
    (hb : t.find? (key n) = some b) : ∃ a, lastOf n ps = some a ∧ R n a b := by
  cases hlast : lastOf n ps with
  | none =>
    have hcontains : t.contains (key n) = true := by
      rw [contains, hb]
      rfl
    exact absurd (mem_arrived.mp ((h.contains_iff hkey).mp hcontains))
      (lastOf_eq_none_iff.mp hlast)
  | some a =>
    obtain ⟨b', hb', hR⟩ := h.last n a hlast
    obtain rfl : b = b' := Option.some.inj (hb.symm.trans hb')
    exact ⟨a, rfl, hR⟩

/-- Whatever stands in the table stands there for the last arrival of a name. -/
theorem exists_of_find? (h : Follows key R ps t) (hkey : Function.Injective key) {k : κ} {b : β}
    (hb : t.find? k = some b) : ∃ n a, lastOf n ps = some a ∧ R n a b := by
  have hmem : k ∈ t.keys := contains_iff_mem_keys.mp (Option.isSome_iff_exists.mpr ⟨b, hb⟩)
  rw [h.keys_eq] at hmem
  obtain ⟨n, -, rfl⟩ := List.mem_map.mp hmem
  exact ⟨n, h.exists_last hkey hb⟩

end Follows

omit [DecidableEq ν] in
/-- **Values that are known by name** stand in the order of their names. -/
theorem values_eq_map {ns : List ν} {t : Table κ β} {v : ν → β} (hkeys : t.keys = ns.map key)
    (hv : ∀ n ∈ ns, t.find? (key n) = some (v n)) : t.values = ns.map v := by
  have hentries : t.values.map some = t.keys.map t.find? := by
    unfold values keys
    rw [List.map_map, List.map_map]
    exact List.map_congr_left fun e he => (find?_eq_some_iff.mpr he).symm
  rw [hkeys, List.map_map] at hentries
  have hsome : Function.Injective (some : β → Option β) := fun _ _ => Option.some.inj
  refine List.map_injective_iff.mpr hsome ?_
  rw [hentries, List.map_map]
  exact List.map_congr_left hv

end CollectionTypes.Table
