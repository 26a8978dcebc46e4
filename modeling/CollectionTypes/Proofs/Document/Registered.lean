import CollectionTypes.Proofs.Document.Imported
import Mathlib.Data.List.Induction

/-!
# The import table after any calls

The table of the imports is called to register a name, perhaps with an alias, or some
names alone (`Imports.Call`). A call gives a name an alias if it brings one that is neither
empty nor the name itself (`Call.Gives`); any other call on the name is as good as one of
the name alone. Whatever the calls, the table holds the names registered, and a name
goes by the alias that was given last (`Imports.Records`).

It follows that the order of the calls does not matter as long as no name is given
two aliases (`import_table_records_calls`).
-/

namespace CollectionTypes

namespace Imports

/-- **A call on the table.** -/
inductive Call where
  /-- To register a name, perhaps with an alias. -/
  | add (name : String) (localName : Option String)
  /-- To register names alone. -/
  | update (names : List String)

namespace Call

/-- The table after a call. -/
def on (t : Imports) : Call → Imports
  | add name localName => t.add name localName
  | update names => t.addAll names

/-- The names that a call registers. -/
def names : Call → List String
  | add name _ => [name]
  | update names => names

/-- **A call gives a name an alias**, which is neither empty nor the name itself. -/
def Gives (c : Call) (name localName : String) : Prop :=
  c = add name (some localName) ∧ localName ≠ "" ∧ localName ≠ name

/-- The registrations that a call comes to. -/
def registrations : Call → List Registration
  | add name localName => [(name, localName)]
  | update names => names.map (·, none)

theorem on_eq_foldl (t : Imports) (c : Call) : c.on t = c.registrations.foldl register t := by
  cases c with
  | add name localName => rfl
  | update names =>
    unfold registrations
    rw [List.foldl_map]
    rfl

theorem map_fst_registrations (c : Call) : c.registrations.map Prod.fst = c.names := by
  cases c with
  | add name localName => rfl
  | update names => exact (List.map_map ..).trans (List.map_id' names)

/-- What a call gives is what its registrations give. -/
theorem gives_iff {c : Call} {n a : String} :
    c.Gives n a ↔ Table.lastOf n (aliasesOf c.registrations) = some a := by
  unfold Gives
  cases c with
  | update names =>
    rw [registrations, aliasesOf_bare]
    exact ⟨fun h => (nomatch h.1), fun h => (nomatch h)⟩
  | add name localName =>
    have hlast : Table.lastOf n (aliasesOf (add name localName).registrations)
        = if name = n then Registration.alias? (name, localName) else none :=
      (aliasesOf_cons (name, localName) [] n).trans (Option.none_or)
    rw [hlast, Option.ite_none_right_eq_some]
    unfold Registration.alias?
    rw [Option.filter_eq_some_iff, Bool.and_eq_true, bne_iff_ne, bne_iff_ne]
    constructor
    · rintro ⟨hcall, hproper⟩
      obtain ⟨rfl, rfl⟩ := add.inj hcall
      exact ⟨rfl, rfl, hproper⟩
    · rintro ⟨rfl, rfl, hproper⟩
      exact ⟨rfl, hproper⟩

end Call

/-- **The table after calls**, one after the other, beginning with some names. -/
def afterCalls (initial : List String) (calls : List Call) : Imports :=
  calls.foldl Call.on (ofNames initial)

/-- The alias that a name goes by, if it has one. -/
def alias? (t : Imports) (name : String) : Option String :=
  (t.find? name).join

/-- **An alias is the last one** that calls give a name. -/
def LastGiven (calls : List Call) (name localName : String) : Prop :=
  ∃ before c after, calls = before ++ c :: after ∧ c.Gives name localName
    ∧ ∀ c' ∈ after, ∀ a, ¬ c'.Gives name a

/-- **What calls make of the table**: these are its names. -/
structure Records (initial : List String) (calls : List Call) (t : Imports)
    (names : List String) : Prop where
  ascending : names.Pairwise (· < ·)
  registered : ∀ n, n ∈ names ↔ n ∈ initial ∨ ∃ c ∈ calls, n ∈ c.names
  size : t.size = names.length
  contains : ∀ n, t.contains n = true ↔ n ∈ names
  /-- A name has an alias if some call gave it one. -/
  aliased : ∀ n, (∃ a, t.alias? n = some a) ↔ ∃ c ∈ calls, ∃ a, c.Gives n a
  /-- The alias is the one that was given last. -/
  last : ∀ n a, t.alias? n = some a ↔ LastGiven calls n a
  specifiers : t.specifiers = names.map fun n => specifier (n, t.alias? n)

/-! ### The alias of a name -/

variable {initial : List String} {calls calls' : List Call} {n a : String}

theorem LastGiven.exists_gives (h : LastGiven calls n a) : ∃ c ∈ calls, c.Gives n a := by
  obtain ⟨before, c, after, rfl, hgives, -⟩ := h
  exact ⟨c, List.mem_append_right _ List.mem_cons_self, hgives⟩

/-- A call at the end gives the last alias, or leaves the one given before. -/
theorem lastGiven_append_singleton {c : Call} :
    LastGiven (calls ++ [c]) n a
      ↔ c.Gives n a ∨ (∀ a', ¬ c.Gives n a') ∧ LastGiven calls n a := by
  constructor
  · rintro ⟨before, c', after, heq, hgives, hafter⟩
    rcases List.eq_nil_or_concat' after with rfl | ⟨after, d, rfl⟩
    · obtain ⟨-, hc⟩ := List.append_inj' heq rfl
      obtain rfl := List.singleton_inj.mp hc
      exact .inl hgives
    · rw [← List.cons_append, ← List.append_assoc] at heq
      obtain ⟨hcalls, hc⟩ := List.append_inj' heq rfl
      obtain rfl := List.singleton_inj.mp hc
      refine .inr ⟨hafter c (List.mem_append_right _ List.mem_cons_self), before, c', after, hcalls,
        hgives, fun d hd => hafter d (List.mem_append_left _ hd)⟩
  · rintro (hgives | ⟨hnone, before, c', after, rfl, hgives, hafter⟩)
    · exact ⟨calls, c, [], rfl, hgives, fun _ hd => absurd hd List.not_mem_nil⟩
    · refine ⟨before, c', after ++ [c], ?_, hgives, fun d hd => ?_⟩
      · rw [List.append_assoc, List.cons_append]
      · rcases List.mem_append.mp hd with hd | hd
        · exact hafter d hd
        · rw [List.mem_singleton.mp hd]
          exact hnone

/-- **The last alias given** is the last that the registrations give. -/
theorem lastGiven_iff :
    LastGiven calls n a ↔ Table.lastOf n (aliasesOf (calls.flatMap Call.registrations)) = some a := by
  induction calls using List.reverseRecOn with
  | nil =>
    refine ⟨fun h => ?_, fun h => nomatch h⟩
    obtain ⟨c, hc, -⟩ := h.exists_gives
    cases hc
  | append_singleton calls c ih =>
    have hnone : (∀ a', ¬ c.Gives n a') ↔ Table.lastOf n (aliasesOf c.registrations) = none := by
      simp only [Call.gives_iff, Option.eq_none_iff_forall_ne_some]
    rw [lastGiven_append_singleton, ih, Call.gives_iff, hnone, List.flatMap_append,
      List.flatMap_singleton, aliasesOf_append, Table.lastOf_append, Option.or_eq_some_iff]

/-- If some call gives a name an alias, one is the last. -/
theorem exists_lastGiven {c : Call} (hc : c ∈ calls) (h : c.Gives n a) :
    ∃ a', LastGiven calls n a' := by
  induction calls using List.reverseRecOn with
  | nil => cases hc
  | append_singleton calls d ih =>
    by_cases hd : ∃ a', d.Gives n a'
    · obtain ⟨a', ha'⟩ := hd
      exact ⟨a', lastGiven_append_singleton.mpr (.inl ha')⟩
    · rcases List.mem_append.mp hc with hc | hc
      · obtain ⟨a', ha'⟩ := ih hc
        exact ⟨a', lastGiven_append_singleton.mpr (.inr ⟨not_exists.mp hd, ha'⟩)⟩
      · rw [List.mem_singleton.mp hc] at h
        exact absurd ⟨a, h⟩ hd

/-! ### The table after calls -/

/-- Calls come to registrations, first of the names to begin with. -/
theorem afterCalls_eq_foldl (initial : List String) (calls : List Call) :
    afterCalls initial calls
      = (initial.map (·, none) ++ calls.flatMap Call.registrations).foldl register Table.empty := by
  have hcalls : ∀ t : Imports,
      calls.foldl Call.on t = (calls.flatMap Call.registrations).foldl register t := by
    induction calls with
    | nil => exact fun _ => rfl
    | cons c calls ih =>
      intro t
      rw [List.foldl_cons, ih, Call.on_eq_foldl, List.flatMap_cons, List.foldl_append]
  unfold afterCalls
  rw [hcalls, List.foldl_append, List.foldl_map]
  rfl

theorem contains_afterCalls :
    (afterCalls initial calls).contains n = true ↔ n ∈ initial ∨ ∃ c ∈ calls, n ∈ c.names := by
  have hmap : ∀ c ∈ calls, (∃ r ∈ c.registrations, r.1 = n) ↔ n ∈ c.names := by
    intro c _
    rw [← c.map_fst_registrations, List.mem_map]
  rw [Table.contains_iff_mem_keys, afterCalls_eq_foldl, (made_foldl _).mem]
  simp only [List.mem_append, or_and_right, exists_or, List.mem_map, List.mem_flatMap]
  refine or_congr ⟨?_, fun hn => ⟨_, ⟨n, hn, rfl⟩, rfl⟩⟩ ⟨?_, ?_⟩
  · rintro ⟨r, ⟨m, hm, rfl⟩, rfl⟩
    exact hm
  · rintro ⟨r, ⟨c, hc, hr⟩, hn⟩
    exact ⟨c, hc, (hmap c hc).mp ⟨r, hr, hn⟩⟩
  · rintro ⟨c, hc, hn⟩
    obtain ⟨r, hr, hr'⟩ := (hmap c hc).mpr hn
    exact ⟨r, ⟨c, hc, hr⟩, hr'⟩

/-- **A name goes by the alias** that was given last. -/
theorem alias?_afterCalls_iff :
    (afterCalls initial calls).alias? n = some a ↔ LastGiven calls n a := by
  unfold alias?
  rw [afterCalls_eq_foldl, join_find?_foldl, aliasesOf_append, aliasesOf_bare, List.nil_append,
    lastGiven_iff]

/-- Each name is written with the alias that it goes by. -/
theorem specifiers_eq (t : Imports) :
    t.specifiers = (t.arranged.map Prod.fst).map fun n => specifier (n, t.alias? n) := by
  unfold specifiers
  rw [List.map_map]
  refine List.map_congr_left fun e he => ?_
  have hfind : t.find? e.1 = some e.2 := mem_arranged.mp he
  show specifier e = specifier (e.1, (t.find? e.1).join)
  rw [hfind, Option.join_some]

/-- **Whatever the calls, the table records them.** -/
theorem records_afterCalls (initial : List String) (calls : List Call) :
    Records initial calls (afterCalls initial calls)
      ((afterCalls initial calls).arranged.map Prod.fst) where
  ascending := List.pairwise_map.mpr (ascending_arranged _)
  registered n := by
    rw [mem_map_fst_arranged, ← Table.contains_iff_mem_keys]
    exact contains_afterCalls
  size := by
    rw [List.length_map, (arranged_perm _).length_eq]
    rfl
  contains n := by rw [mem_map_fst_arranged, Table.contains_iff_mem_keys]
  aliased n := by
    simp only [alias?_afterCalls_iff]
    constructor
    · rintro ⟨a, h⟩
      obtain ⟨c, hc, hgives⟩ := h.exists_gives
      exact ⟨c, hc, a, hgives⟩
    · rintro ⟨c, hc, a, hgives⟩
      exact exists_lastGiven hc hgives
  last n a := alias?_afterCalls_iff
  specifiers := specifiers_eq _

/-! ### The order of the calls -/

/-- **No name is given two aliases.** -/
def Unambiguous (calls : List Call) : Prop :=
  ∀ c ∈ calls, ∀ c' ∈ calls, ∀ n a a', c.Gives n a → c'.Gives n a' → a = a'

/-- Of unambiguous calls any that gives an alias gives the last one. -/
theorem Unambiguous.lastGiven_iff (h : Unambiguous calls) :
    LastGiven calls n a ↔ ∃ c ∈ calls, c.Gives n a := by
  refine ⟨LastGiven.exists_gives, ?_⟩
  rintro ⟨c, hc, hgives⟩
  obtain ⟨a', hlast⟩ := exists_lastGiven hc hgives
  obtain ⟨c', hc', hgives'⟩ := hlast.exists_gives
  exact h c hc c' hc' n a a' hgives hgives' ▸ hlast

/-- Tables with the same names under the same aliases are written alike. -/
theorem specifiers_congr {t t' : Imports} (hcontains : ∀ n, t.contains n = t'.contains n)
    (halias : ∀ n, t.alias? n = t'.alias? n) : t.specifiers = t'.specifiers := by
  have hfind : ∀ n, t.find? n = t'.find? n := by
    intro n
    have hn := hcontains n
    have ha := halias n
    unfold Table.contains at hn
    unfold alias? at ha
    cases h : t.find? n <;> cases h' : t'.find? n <;> simp_all
  have harranged : t.arranged = t'.arranged :=
    sortedBy_eq_of_perm (Table.perm_entries_iff.mpr hfind) t.distinct
  unfold specifiers
  rw [harranged]

/-- **The order of unambiguous calls does not matter.** -/
theorem Unambiguous.specifiers_eq_of_perm (h : Unambiguous calls) (hperm : calls.Perm calls') :
    (afterCalls initial calls).specifiers = (afterCalls initial calls').specifiers := by
  have h' : Unambiguous calls' := fun c hc c' hc' =>
    h c (hperm.mem_iff.mpr hc) c' (hperm.mem_iff.mpr hc')
  refine specifiers_congr (fun n => ?_) fun n => Option.ext fun a => ?_
  · rw [Bool.eq_iff_iff, contains_afterCalls, contains_afterCalls]
    simp only [hperm.mem_iff]
  · rw [alias?_afterCalls_iff, alias?_afterCalls_iff, h.lastGiven_iff, h'.lastGiven_iff]
    simp only [hperm.mem_iff]

end Imports

open Imports

/-- **The import table records the calls** on it, whatever they are: it lists each name
registered once, in strictly ascending order, and there are as many of them as it says; a
name has an alias exactly if some call gave it one, and then the last one given. Hence
the order of calls that give no name two aliases does not matter. -/
theorem import_table_records_calls (initial : List String) (calls : List Call) :
    (∃ names, Records initial calls (afterCalls initial calls) names)
      ∧ ∀ calls', calls.Perm calls' → Unambiguous calls →
        (afterCalls initial calls).specifiers = (afterCalls initial calls').specifiers :=
  ⟨⟨_, records_afterCalls initial calls⟩, fun _ hperm h => h.specifiers_eq_of_perm hperm⟩

/-- Calls on two names, of which one is given an alias once, among calls that give none. -/
def sampleCalls : List Call :=
  [.add "User" (some "DirectusUser"), .update ["User", "File"], .add "User" (some ""),
    .add "File" (some "File"), .add "User" none]

/-- The calls of the sample can come in the opposite order. -/
theorem sample_calls_turned_round :
    sampleCalls.Perm sampleCalls.reverse ∧ Unambiguous sampleCalls
      ∧ (afterCalls ["PrimaryKey"] sampleCalls).specifiers
        = ["File", "PrimaryKey", "User as DirectusUser"]
      ∧ (afterCalls ["PrimaryKey"] sampleCalls.reverse).specifiers
        = ["File", "PrimaryKey", "User as DirectusUser"] := by
  have hperm : sampleCalls.Perm sampleCalls.reverse := (List.reverse_perm _).symm
  have hone : Unambiguous sampleCalls := by
    have hgives : ∀ c ∈ sampleCalls, ∀ n a, c.Gives n a → a = "DirectusUser" := by
      simp [sampleCalls, Call.Gives]
    intro c hc c' hc' n a a' h h'
    rw [hgives c hc n a h, hgives c' hc' n a' h']
  have hentries : (afterCalls ["PrimaryKey"] sampleCalls).entries.Perm
      [("File", none), ("PrimaryKey", none), ("User", some "DirectusUser")] := by
    decide +kernel
  have harranged : (afterCalls ["PrimaryKey"] sampleCalls).arranged
      = [("File", none), ("PrimaryKey", none), ("User", some "DirectusUser")] :=
    (sortedBy_eq_of_perm hentries (Table.keys_nodup _)).trans
      (List.mergeSort_of_pairwise (by decide +kernel))
  have hspecifiers : (afterCalls ["PrimaryKey"] sampleCalls).specifiers
      = ["File", "PrimaryKey", "User as DirectusUser"] :=
    congrArg (List.map specifier) harranged
  have hturned := (import_table_records_calls ["PrimaryKey"] sampleCalls).2 _ hperm hone
  exact ⟨hperm, hone, hspecifiers, hturned ▸ hspecifiers⟩

end CollectionTypes
