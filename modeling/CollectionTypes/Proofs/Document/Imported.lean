import CollectionTypes.Proofs.Arranged
import CollectionTypes.Proofs.Document.Declared
import CollectionTypes.Proofs.Readings

/-!
# What the import table holds

The table of the imports is made by registrations, one after the other: of a
name alone, or of a name with an alias. `Imports.Made` says what table
registrations make. It holds the names registered and no others; an alias in
it was registered for its name; and a name stands there without an alias only
if none was registered for it. One more registration keeps this up
(`Imports.Made.add`), so it holds of the table of a document
(`View.made_importsFrom`).
-/

namespace CollectionTypes

namespace Imports

/-- **A name to be imported**, and the alias that is asked for. -/
abbrev Registration := String × Option String

/-- The alias that a registration gives; none if it says nothing. -/
def Registration.alias? (r : Registration) : Option String :=
  r.2.filter fun a => a != "" && a != r.1

/-- The table after a registration. -/
def register (t : Imports) (r : Registration) : Imports :=
  t.add r.1 r.2

/-- **What a reader sees after a registration.** The name is there, with the
alias given now, else with the one that it had. -/
theorem find?_register (t : Imports) (r : Registration) (n : String) :
    (t.register r).find? n
      = if r.1 = n then some (r.alias?.or (t.find? n).join) else t.find? n := by
  -- first the name alone, as if there were no alias
  have hbare : ((if t.contains r.1 then t else t.insert r.1 none) : Imports).find? n
      = if r.1 = n then some (t.find? n).join else t.find? n := by
    by_cases hthere : t.contains r.1 = true
    · rw [if_pos hthere]
      by_cases hn : r.1 = n
      · obtain ⟨x, hx⟩ := Option.isSome_iff_exists.mp hthere
        rw [if_pos hn, ← hn, hx]
        rfl
      · rw [if_neg hn]
    · rw [if_neg hthere, Table.find?_insert]
      by_cases hn : r.1 = n
      · rw [if_pos hn, if_pos hn, ← hn, Option.not_isSome_iff_eq_none.mp hthere]
        rfl
      · rw [if_neg hn, if_neg hn]
  obtain ⟨name, a⟩ := r
  cases a with
  | none => exact hbare
  | some a =>
    unfold register add Registration.alias?
    rw [Option.filter_some]
    dsimp only at hbare ⊢
    split
    · rw [Table.find?_insert, Option.some_or]
    · rw [hbare, Option.none_or]

/-- **A table that registrations make.** -/
structure Made (rs : List Registration) (t : Imports) : Prop where
  mem : ∀ n, n ∈ t.keys ↔ ∃ r ∈ rs, r.1 = n
  aliased : ∀ n a, t.find? n = some (some a) → ∃ r ∈ rs, r.1 = n ∧ r.alias? = some a
  bare : ∀ n, t.find? n = some none → ∀ r ∈ rs, r.1 = n → r.alias? = none

theorem made_empty : Made [] (Table.empty : Imports) where
  mem n := ⟨fun h => absurd h List.not_mem_nil, fun ⟨_, h, _⟩ => absurd h List.not_mem_nil⟩
  aliased n a h := by cases h
  bare n h := by cases h

/-- **One more registration** makes the table with it. -/
theorem Made.add {rs : List Registration} {t : Imports} (h : Made rs t) (r : Registration) :
    Made (rs ++ [r]) (t.register r) where
  mem n := by
    rw [← Table.contains_iff_mem_keys, Table.contains, find?_register]
    have hold : (t.find? n).isSome = true ↔ ∃ r ∈ rs, r.1 = n :=
      Table.contains_iff_mem_keys.trans (h.mem n)
    split
    · next hn => exact ⟨fun _ => ⟨r, List.mem_append_right _ List.mem_cons_self, hn⟩, fun _ => rfl⟩
    · next hn =>
      rw [hold]
      constructor
      · rintro ⟨r', hr', hn'⟩
        exact ⟨r', List.mem_append_left _ hr', hn'⟩
      · rintro ⟨r', hr', hn'⟩
        rcases List.mem_append.mp hr' with hr' | hr'
        · exact ⟨r', hr', hn'⟩
        · exact absurd (List.mem_singleton.mp hr' ▸ hn') hn
  aliased n a ha := by
    rw [find?_register] at ha
    have hold : t.find? n = some (some a) → ∃ r' ∈ rs ++ [r], r'.1 = n ∧ r'.alias? = some a := by
      intro hfind
      obtain ⟨r', hr', hn'⟩ := h.aliased n a hfind
      exact ⟨r', List.mem_append_left _ hr', hn'⟩
    split at ha
    · next hn =>
      -- the alias is given now, or the name had it
      rcases Option.or_eq_some_iff.mp (Option.some.inj ha) with hnew | ⟨-, hjoin⟩
      · exact ⟨r, List.mem_append_right _ List.mem_cons_self, hn, hnew⟩
      · exact hold (Option.join_eq_some_iff.mp hjoin)
    · exact hold ha
  bare n hbare := by
    rw [find?_register] at hbare
    intro r' hr' hn'
    split at hbare
    · next hn =>
      obtain ⟨hnew, hjoin⟩ := Option.or_eq_none_iff.mp (Option.some.inj hbare)
      rcases List.mem_append.mp hr' with hr' | hr'
      · obtain ⟨x, hx⟩ : ∃ x, t.find? n = some x :=
          Option.isSome_iff_exists.mp (Table.contains_iff_mem_keys.mpr ((h.mem n).mpr ⟨r', hr', hn'⟩))
        rw [hx] at hjoin
        exact h.bare n (hx.trans (congrArg some hjoin)) r' hr' hn'
      · rw [List.mem_singleton.mp hr']
        exact hnew
    · next hn =>
      rcases List.mem_append.mp hr' with hr' | hr'
      · exact h.bare n hbare r' hr' hn'
      · exact absurd (List.mem_singleton.mp hr' ▸ hn') hn

theorem Made.foldl {rs : List Registration} {t : Imports} (h : Made rs t)
    (more : List Registration) : Made (rs ++ more) (more.foldl register t) := by
  induction more generalizing rs t with
  | nil =>
    rw [List.append_nil]
    exact h
  | cons r more ih =>
    have hmore := ih (h.add r)
    rw [List.append_assoc] at hmore
    exact hmore

/-- **What registrations make**, beginning with nothing. -/
theorem made_foldl (rs : List Registration) : Made rs (rs.foldl register Table.empty) :=
  made_empty.foldl rs

/-! ### Which alias a name has -/

/-- The aliases that registrations give, each for its name. -/
def aliasesOf (rs : List Registration) : List (String × String) :=
  rs.filterMap fun r => r.alias?.map (r.1, ·)

theorem aliasesOf_append (rs rs' : List Registration) :
    aliasesOf (rs ++ rs') = aliasesOf rs ++ aliasesOf rs' :=
  List.filterMap_append

/-- Names alone give no alias. -/
theorem aliasesOf_bare (names : List String) : aliasesOf (names.map (·, none)) = [] := by
  unfold aliasesOf
  rw [List.filterMap_map, List.filterMap_eq_nil_iff]
  exact fun _ _ => rfl

theorem aliasesOf_cons (r : Registration) (rs : List Registration) (n : String) :
    Table.lastOf n (aliasesOf (r :: rs))
      = (Table.lastOf n (aliasesOf rs)).or (if r.1 = n then r.alias? else none) := by
  unfold aliasesOf
  rw [List.filterMap_cons]
  cases r.alias? with
  | none => rw [ite_self, Option.or_none]; rfl
  | some a => exact Table.lastOf_cons n (r.1, a) _

theorem lastOf_aliasesOf_eq_none {rs : List Registration} {n : String}
    (hn : n ∉ rs.map Prod.fst) : Table.lastOf n (aliasesOf rs) = none := by
  refine Table.lastOf_eq_none fun hmem => hn ?_
  obtain ⟨e, he, rfl⟩ := List.mem_map.mp hmem
  obtain ⟨r, hr, hsome⟩ := List.mem_filterMap.mp he
  obtain ⟨a, -, rfl⟩ := Option.map_eq_some_iff.mp hsome
  exact List.mem_map_of_mem hr

/-- **The last alias that is given for a name** is the one that it has. -/
theorem find?_foldl_register (rs : List Registration) (t : Imports) (n : String) :
    (rs.foldl register t).find? n
      = if n ∈ rs.map Prod.fst
          then some ((Table.lastOf n (aliasesOf rs)).or (t.find? n).join)
        else t.find? n := by
  induction rs generalizing t with
  | nil => rfl
  | cons r rs ih =>
    rw [List.foldl_cons, ih, find?_register, aliasesOf_cons, List.map_cons]
    by_cases hn : r.1 = n
    · have hmem : n ∈ r.1 :: rs.map Prod.fst := hn ▸ List.mem_cons_self
      rw [if_pos hn, if_pos hn, if_pos hmem, Option.join_some, Option.or_assoc]
      split
      · rfl
      · next hrest =>
        -- no later registration gives an alias
        rw [lastOf_aliasesOf_eq_none hrest, Option.none_or]
    · have hmem : n ∈ r.1 :: rs.map Prod.fst ↔ n ∈ rs.map Prod.fst :=
        List.mem_cons.trans (or_iff_right (Ne.symm hn))
      rw [if_neg hn, if_neg hn, Option.or_none]
      simp only [hmem]

/-- The alias that a name has in a table made of registrations. -/
theorem join_find?_foldl (rs : List Registration) (n : String) :
    ((rs.foldl register Table.empty).find? n).join = Table.lastOf n (aliasesOf rs) := by
  rw [find?_foldl_register]
  split
  · rw [Option.join_some]
    exact Option.or_none
  · next hn =>
    exact (lastOf_aliasesOf_eq_none hn).symm

/-! ### The table in writing -/

theorem arranged_perm (t : Imports) : t.arranged.Perm t.entries :=
  List.mergeSort_perm _ _

theorem mem_arranged {t : Imports} {n : String} {x : Option String} :
    (n, x) ∈ t.arranged ↔ t.find? n = some x := by
  rw [t.arranged_perm.mem_iff, Table.find?_eq_some_iff]

theorem mem_arranged_some {t : Imports} {n a : String} :
    (n, some a) ∈ t.arranged ↔ (t.find? n).join = some a := by
  rw [mem_arranged, Option.join_eq_some_iff]

theorem mem_map_fst_arranged {t : Imports} {n : String} :
    n ∈ t.arranged.map Prod.fst ↔ n ∈ t.keys :=
  (t.arranged_perm.map Prod.fst).mem_iff

/-- **The imports are written in strictly ascending order.** -/
theorem ascending_arranged (t : Imports) : t.arranged.Pairwise fun e e' => e.1 < e'.1 :=
  ascending_sortedBy t.distinct

end Imports

/-! ## The imports of views -/

namespace View

open Imports

/-- What the members of a view ask to import. -/
def mentions (e : Typed) : List String :=
  e.2.filterMap fun p => p.2.host

/-- The names of the host's types that views mention, and that of the keys. -/
def mentioned (s : Settings) (es : List Typed) : List String :=
  s.primaryKeyType :: es.flatMap mentions

/-- The host's types that views extend. -/
def extensions (es : List Typed) : List Extension :=
  es.filterMap fun e => e.1.base

/-- The names of the types of views. -/
def typeNames (es : List Typed) : List String :=
  es.map fun e => e.1.typeName

/-- **What a view asks to import**: what its members mention, and what it
extends. -/
def registrations (e : Typed) : List Registration :=
  (mentions e).map (·, none)
    ++ (e.1.base.map fun x => (x.hostType, some x.localName)).toList

theorem addImports_eq_foldl (t : Imports) (e : Typed) :
    e.1.addImports t e.2 = (registrations e).foldl register t := by
  have hmembers : e.2.foldl (fun t p => p.2.host.elim t t.add) t
      = ((mentions e).map fun n => ((n, none) : Registration)).foldl register t := by
    unfold mentions
    induction e.2 generalizing t with
    | nil => rfl
    | cons p ps ih =>
      rw [List.foldl_cons, ih, List.filterMap_cons]
      cases p.2.host <;> rfl
  unfold addImports registrations
  rw [List.foldl_append, ← hmembers]
  cases e.1.base <;> rfl

theorem importsFrom_eq_foldl (t : Imports) (es : List Typed) :
    importsFrom t es = (es.flatMap registrations).foldl register t := by
  unfold importsFrom
  induction es generalizing t with
  | nil => rfl
  | cons e es ih =>
    rw [List.foldl_cons, List.flatMap_cons, List.foldl_append, ← addImports_eq_foldl]
    exact ih _

/-- **What the imports of views hold.** -/
theorem made_importsFrom (names : List String) (es : List Typed) :
    Made (names.map (·, none) ++ es.flatMap registrations)
      (importsFrom (Imports.ofNames names) es) := by
  have hnames : Imports.ofNames names
      = (names.map fun n => ((n, none) : Registration)).foldl register Table.empty := by
    rw [List.foldl_map]
    rfl
  rw [importsFrom_eq_foldl, hnames]
  exact (made_foldl _).foldl _

theorem mem_registrations {e : Typed} {r : Registration} :
    r ∈ registrations e
      ↔ (∃ n ∈ mentions e, r = (n, none))
        ∨ ∃ x, e.1.base = some x ∧ r = (x.hostType, some x.localName) := by
  unfold registrations
  rw [List.mem_append, List.mem_map, Option.mem_toList, Option.map_eq_some_iff]
  constructor
  · rintro (⟨n, hn, rfl⟩ | ⟨x, hx, rfl⟩)
    · exact .inl ⟨n, hn, rfl⟩
    · exact .inr ⟨x, hx, rfl⟩
  · rintro (⟨n, hn, rfl⟩ | ⟨x, hx, rfl⟩)
    · exact .inl ⟨n, hn, rfl⟩
    · exact .inr ⟨x, hx, rfl⟩

end View

end CollectionTypes
