import CollectionTypes.Document.View
import Mathlib.Data.Finset.Card
import Mathlib.Data.List.Induction

/-!
# Collections whose types have one name

A `Title` is a collection with the name of its type. Of titles in a row, one clashes
with those before it if its type belongs to one of them already, and the first of
these is its owner (`Title.clash?`). So there are as many clashes as there are
titles beyond the distinct names of types (`Title.length_clashes_add_card`), and
none exactly if no two types have one name (`Title.clashes_eq_nil_iff`).

When the views are made, a table of owners holds the types named so far, each
with the first collection that has it, and a view whose type has another owner
is complained about. If no two collections have one name, the complaints are the
clashes (`View.collisions_eq_clashes`).
-/

namespace CollectionTypes

/-- **What is said about two collections** whose types have one name. -/
def View.collisionText (other name typeName : String) : String :=
  "Collections " ++ other ++ " and " ++ name ++ " both generate type " ++ typeName

/-- **A collection and the name of its type.** -/
structure Title where
  collection : String
  typeName : String

namespace Title

/-- **What is said of a title**, given those before it: that its type already belongs
to the first of them with a type of that name. -/
def clash? (before : List Title) (t : Title) : Option String :=
  (before.find? fun b => b.typeName == t.typeName).map fun owner =>
    View.collisionText owner.collection t.collection t.typeName

/-- **What is said of titles in a row**, of each given those before it. -/
def clashes (ts : List Title) : List String :=
  ts.zipIdx.filterMap fun p => clash? (ts.take p.2) p.1

variable {ts : List Title} {t : Title}

theorem clash?_eq_none_iff : clash? ts t = none ↔ t.typeName ∉ ts.map typeName := by
  unfold clash?
  rw [Option.map_eq_none_iff, List.find?_eq_none, List.mem_map, not_exists]
  refine forall_congr' fun b => ?_
  rw [beq_iff_eq, not_and]

/-- A title at the end takes nothing back. -/
theorem clashes_append_singleton (ts : List Title) (t : Title) :
    clashes (ts ++ [t]) = clashes ts ++ (clash? ts t).toList := by
  have hinside : ts.zipIdx.filterMap (fun p => clash? ((ts ++ [t]).take p.2) p.1)
      = clashes ts := by
    refine List.filterMap_congr fun p hp => ?_
    rw [List.take_append_of_le_length (Nat.le_of_lt (List.snd_lt_of_mem_zipIdx hp))]
  have hlast : (ts ++ [t]).take ts.length = ts := List.take_left
  rw [clashes, List.zipIdx_append, List.filterMap_append, hinside, Nat.zero_add,
    List.zipIdx_singleton, List.filterMap_cons, hlast]
  cases clash? ts t <;> rfl

/-- **There are as many clashes** as there are titles beyond the distinct names of
types. -/
theorem length_clashes_add_card (ts : List Title) :
    (clashes ts).length + (ts.map typeName).toFinset.card = ts.length := by
  induction ts using List.reverseRecOn with
  | nil => rfl
  | append_singleton ts t ih =>
    rw [clashes_append_singleton, List.length_append, List.length_append, List.map_append,
      List.toFinset_append, ← ih]
    cases hclash : clash? ts t with
    | none =>
      -- the name is new
      have hnew : t.typeName ∉ (ts.map typeName).toFinset := by
        rw [List.mem_toFinset]
        exact clash?_eq_none_iff.mp hclash
      have hcard := Finset.card_insert_of_notMem hnew
      rw [Finset.insert_eq, Finset.union_comm] at hcard
      simp only [List.map_cons, List.map_nil, List.toFinset_cons, List.toFinset_nil,
        insert_empty_eq, Option.toList_none, List.length_nil, List.length_singleton, hcard]
      omega
    | some said =>
      have hknown : t.typeName ∈ (ts.map typeName).toFinset := by
        by_contra hnew
        rw [List.mem_toFinset] at hnew
        rw [clash?_eq_none_iff.mpr hnew] at hclash
        cases hclash
      have hunion := Finset.union_eq_left.mpr (Finset.singleton_subset_iff.mpr hknown)
      simp only [List.map_cons, List.map_nil, List.toFinset_cons, List.toFinset_nil,
        insert_empty_eq, Option.toList_some, List.length_singleton, hunion]
      omega

/-- **There are no clashes** exactly if no two types have one name. -/
theorem clashes_eq_nil_iff : clashes ts = [] ↔ (ts.map typeName).Nodup := by
  have hcount := length_clashes_add_card ts
  have hcard : (ts.map typeName).toFinset.card = ts.length ↔ (ts.map typeName).Nodup := by
    have h := Multiset.toFinset_card_eq_card_iff_nodup (m := (ts.map typeName : Multiset String))
    rwa [Multiset.coe_card, List.length_map, Multiset.coe_nodup] at h
  rw [← hcard, ← List.length_eq_zero_iff]
  omega

end Title

namespace View

theorem eq_collisionText_of_mem {owners : Owners} {vs : List View} {t : String}
    (h : t ∈ collisionsFrom owners vs) : ∃ other name typeName,
      t = collisionText other name typeName := by
  induction vs generalizing owners with
  | nil => cases h
  | cons v vs ih =>
    unfold collisionsFrom at h
    split at h
    · exact ih h
    · next other _ =>
      split at h
      · exact ih h
      · rcases List.mem_cons.mp h with rfl | h
        · exact ⟨other, v.name, v.typeName, rfl⟩
        · exact ih h

/-- The title of a view. -/
def title (v : View) : Title :=
  ⟨v.name, v.typeName⟩

/-- **The owners of types named so far**: each type belongs to the first title with a
type of that name. -/
def Owned (ts : List Title) (owners : Owners) : Prop :=
  ∀ typeName, owners.find? typeName
    = (ts.find? fun t => t.typeName == typeName).map Title.collection

variable {ts : List Title} {owners : Owners} {v : View}

theorem owned_empty : Owned [] Table.empty :=
  fun _ => rfl

/-- A type that has an owner keeps it. -/
theorem Owned.known (h : Owned ts owners) {other : String}
    (hfind : owners.find? v.typeName = some other) : Owned (ts ++ [v.title]) owners := by
  intro typeName
  rw [h typeName, List.find?_append, List.find?_singleton]
  split
  · next hsame =>
    -- the owner stands before the view
    obtain rfl : v.typeName = typeName := beq_iff_eq.mp hsame
    rw [h] at hfind
    obtain ⟨owner, howner, -⟩ := Option.map_eq_some_iff.mp hfind
    rw [howner, Option.some_or]
  · rw [Option.or_none]

/-- A type without an owner belongs to the view that comes with it. -/
theorem Owned.insert (h : Owned ts owners) (hfind : owners.find? v.typeName = none) :
    Owned (ts ++ [v.title]) (owners.insert v.typeName v.name) := by
  intro typeName
  rw [Table.find?_insert, h typeName, List.find?_append, List.find?_singleton]
  by_cases hsame : v.typeName = typeName
  · rw [h, Option.map_eq_none_iff] at hfind
    have htitle : (v.title.typeName == typeName) = true := beq_iff_eq.mpr hsame
    rw [if_pos hsame, if_pos htitle, ← hsame, hfind]
    rfl
  · have htitle : ¬ (v.title.typeName == typeName) = true := fun heq => hsame (beq_iff_eq.mp heq)
    rw [if_neg hsame, if_neg htitle, Option.or_none]

/-- **The complaints about views to come** are their clashes with all before them. -/
theorem clashes_append {vs : List View}
    (hnames : (ts.map Title.collection ++ vs.map View.name).Nodup) (howners : Owned ts owners) :
    Title.clashes (ts ++ vs.map title) = Title.clashes ts ++ collisionsFrom owners vs := by
  induction vs generalizing ts owners with
  | nil => rw [List.map_nil, List.append_nil, collisionsFrom, List.append_nil]
  | cons v vs ih =>
    have hrest : ((ts ++ [v.title]).map Title.collection ++ vs.map View.name).Nodup := by
      rwa [List.map_append, List.append_assoc]
    have hclash : Title.clash? ts v.title = (owners.find? v.typeName).map
        fun other => collisionText other v.name v.typeName := by
      rw [howners, Option.map_map]
      rfl
    rw [List.map_cons, List.append_cons]
    unfold collisionsFrom
    cases hfind : owners.find? v.typeName with
    | none =>
      rw [ih hrest (howners.insert hfind), Title.clashes_append_singleton, hclash, hfind]
      exact congrArg (· ++ _) (List.append_nil _)
    | some other =>
      -- the owner has been, so it is not the collection at hand
      have hother : other ≠ v.name := by
        rintro rfl
        rw [howners] at hfind
        obtain ⟨owner, howner, hsame⟩ := Option.map_eq_some_iff.mp hfind
        have hbefore := List.mem_map_of_mem (f := Title.collection) (List.mem_of_find?_eq_some howner)
        exact List.disjoint_of_nodup_append hnames (hsame ▸ hbefore) List.mem_cons_self
      rw [ih hrest (howners.known hfind), Title.clashes_append_singleton, hclash, hfind,
        List.append_assoc]
      show _ = _ ++ if other = v.name then _ else _
      rw [if_neg hother]
      rfl

/-- **The complaints about views** are the clashes of their titles. -/
theorem collisions_eq_clashes {vs : List View} (hnames : (vs.map View.name).Nodup) :
    collisions vs = Title.clashes (vs.map title) :=
  (clashes_append (by exact hnames) owned_empty).symm

/-- **There are no complaints** exactly if no two types have one name. -/
theorem collisions_eq_nil_iff {vs : List View} (hnames : (vs.map View.name).Nodup) :
    collisions vs = [] ↔ (vs.map View.typeName).Nodup := by
  rw [collisions_eq_clashes hnames, Title.clashes_eq_nil_iff, List.map_map]
  rfl

end View

end CollectionTypes
