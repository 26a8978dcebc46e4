import CollectionTypes.Proofs.Document.Collisions
import CollectionTypes.Proofs.Generation.Bindings
import CollectionTypes.Proofs.Generation.Warned

/-!
# Whether a name is bound twice

A document binds names from four sources: what members mention of the host is
imported as it is, what is extended is imported under an alias, every view is
declared, and so is the type that lists the collections. A run warns if two
views are declared under one name, and of nothing else that is bound twice.
Between the other sources names stay apart exactly if the host and the
project keep them apart: `View.Apart` says how, in terms of what the views
mention, extend and declare, and without the import table
(`Making.nodup_boundNames_iff`).

The sources do meet, without a warning, when the project has a collection
`users` that refers to the users of the host
(`shadowed_name_is_bound_twice`).
-/

namespace CollectionTypes

open Outcome

/-! ## Sources of names that stay apart -/

namespace View

/-- The aliases of the host's types that views extend. -/
def aliases (es : List Typed) : List String :=
  (extensions es).map Extension.localName

/-- **The names that views give rise to stay apart.** -/
structure Apart (s : Settings) (es : List Typed) : Prop where
  /-- An alias says something, and is the alias of one type. -/
  alias_ne : "" ∉ aliases es
  nodup_aliases : (aliases es).Nodup
  alias_mentioned : ∀ a ∈ aliases es, a ∉ mentioned s es
  alias_declared : ∀ a ∈ aliases es, a ∉ typeNames es
  /-- What is mentioned of the host is not the type of a collection of the
  project. -/
  plain_mentioned : ∀ e ∈ es, e.1.base = none → e.1.typeName ∉ mentioned s es
  rollup_mentioned : s.rollupTypeName ∉ mentioned s es
  rollup_alias : s.rollupTypeName ∉ aliases es
  rollup_declared : s.rollupTypeName ∉ typeNames es

instance (s : Settings) (es : List Typed) : Decidable (Apart s es) :=
  decidable_of_iff
    (("" ∉ aliases es ∧ (aliases es).Nodup ∧ (∀ a ∈ aliases es, a ∉ mentioned s es)
        ∧ ∀ a ∈ aliases es, a ∉ typeNames es)
      ∧ (∀ e ∈ es, e.1.base = none → e.1.typeName ∉ mentioned s es)
      ∧ s.rollupTypeName ∉ mentioned s es ∧ s.rollupTypeName ∉ aliases es
      ∧ s.rollupTypeName ∉ typeNames es)
    ⟨fun ⟨⟨h₁, h₂, h₃, h₄⟩, h₅, h₆, h₇, h₈⟩ => ⟨h₁, h₂, h₃, h₄, h₅, h₆, h₇, h₈⟩,
      fun h => ⟨⟨h.1, h.2, h.3, h.4⟩, h.5, h.6, h.7, h.8⟩⟩

/-- In whatever order the views come, their names stay apart. -/
theorem Apart.perm {s : Settings} {es es' : List Typed} (hperm : es.Perm es')
    (h : Apart s es) : Apart s es' := by
  have haliases : (aliases es).Perm (aliases es') := (hperm.filterMap _).map _
  have hmentioned : (mentioned s es).Perm (mentioned s es') :=
    (hperm.flatMap_right mentions).cons _
  have hnames : (typeNames es).Perm (typeNames es') := hperm.map _
  constructor
  · exact fun ha => h.alias_ne (haliases.mem_iff.mpr ha)
  · exact haliases.nodup_iff.mp h.nodup_aliases
  · exact fun a ha hn => h.alias_mentioned a (haliases.mem_iff.mpr ha) (hmentioned.mem_iff.mpr hn)
  · exact fun a ha hn => h.alias_declared a (haliases.mem_iff.mpr ha) (hnames.mem_iff.mpr hn)
  · exact fun e he hbase hn =>
      h.plain_mentioned e (hperm.mem_iff.mpr he) hbase (hmentioned.mem_iff.mpr hn)
  · exact fun hn => h.rollup_mentioned (hmentioned.mem_iff.mpr hn)
  · exact fun hn => h.rollup_alias (haliases.mem_iff.mpr hn)
  · exact fun hn => h.rollup_declared (hnames.mem_iff.mpr hn)

end View

namespace Making

variable {s : Settings} {schema records : Value} (m : Making s schema records)

/-- **The names that the document binds**: what it imports, the types that it
declares, and the type that lists the collections. -/
def boundNames : List String :=
  m.imports.localNames ++ m.blockNames ++ [m.document.rollup.typeName]

theorem nodup_boundNames :
    m.boundNames.Nodup
      ↔ (m.imports.localNames.Nodup ∧ m.blockNames.Nodup
          ∧ ∀ n ∈ m.imports.localNames, n ∉ m.blockNames)
        ∧ s.rollupTypeName ∉ m.imports.localNames ∧ s.rollupTypeName ∉ m.blockNames := by
  have hrollup : m.boundNames
      = (m.imports.localNames ++ m.blockNames) ++ [s.rollupTypeName] := rfl
  rw [hrollup, List.nodup_append_comm, List.singleton_append, List.nodup_cons,
    List.mem_append, not_or, List.nodup_append']
  exact and_comm

/-! ## What is bound by the imports -/

/-- The alias of an entry is that of an extension. -/
theorem mem_aliases {n a : String} (h : (n, some a) ∈ m.imports.arranged) :
    a ∈ View.aliases m.typed := by
  obtain ⟨x, hx, -, rfl, -⟩ := m.extension_of_alias (Imports.mem_arranged.mp h)
  exact List.mem_map_of_mem hx

/-- What is imported as it is, is mentioned or extended. -/
theorem mentioned_or_extended {n : String} (h : (n, none) ∈ m.imports.arranged) :
    n ∈ View.mentioned s m.typed ∨ ∃ x ∈ View.extensions m.typed, x.hostType = n := by
  have hkey : n ∈ m.imports.keys :=
    Table.contains_iff_mem_keys.mp (Option.isSome_iff_exists.mpr ⟨_, Imports.mem_arranged.mp h⟩)
  obtain ⟨r, hr, rfl⟩ := (m.made_imports.mem n).mp hkey
  rcases m.mem_registrations.mp hr with ⟨n, hn, rfl⟩ | ⟨x, hx, rfl⟩
  · exact .inl hn
  · exact .inr ⟨x, hx, rfl⟩

/-- An entry is the only one of its name. -/
theorem eq_of_arranged {n : String} {x y : Option String} (hx : (n, x) ∈ m.imports.arranged)
    (hy : (n, y) ∈ m.imports.arranged) : x = y :=
  Option.some.inj ((Imports.mem_arranged.mp hx).symm.trans (Imports.mem_arranged.mp hy))

theorem nodup_arranged : m.imports.arranged.Nodup :=
  m.imports.arranged_perm.nodup_iff.mpr (.of_map Prod.fst m.imports.keys_nodup)

/-! ## From names that stay apart to bindings -/

section Apart

variable {m} (hd : m.blockNames.Nodup) (hap : View.Apart s m.typed)

include hap in
/-- The aliases of extensions are no idle ones. -/
theorem alias_proper {x : Extension} (hx : x ∈ View.extensions m.typed) :
    x.localName ≠ "" ∧ x.localName ≠ x.hostType := by
  have ha : x.localName ∈ View.aliases m.typed := List.mem_map_of_mem hx
  constructor
  · intro hempty
    exact hap.alias_ne (hempty ▸ ha)
  · intro hsame
    refine hap.alias_declared _ ha ?_
    rw [hsame, ← m.blockNames_eq]
    exact m.hostType_mem_blockNames hx

include hd hap in
/-- What is extended is imported under the alias of the extension. -/
theorem aliased_of_apart {x : Extension} (hx : x ∈ View.extensions m.typed) :
    (x.hostType, some x.localName) ∈ m.imports.arranged := by
  rw [Imports.mem_arranged, m.find?_hostType hd hx, if_pos (alias_proper hap hx)]

include hd hap in
/-- What is imported as it is, is mentioned and not declared. -/
theorem mentioned_of_bare {n : String} (h : (n, none) ∈ m.imports.arranged) :
    n ∈ View.mentioned s m.typed ∧ n ∉ m.blockNames := by
  have hfree : ∀ x ∈ View.extensions m.typed, x.hostType ≠ n := by
    rintro x hx rfl
    cases m.eq_of_arranged h (aliased_of_apart hd hap hx)
  have hn : n ∈ View.mentioned s m.typed := by
    rcases m.mentioned_or_extended h with hn | ⟨x, hx, hsame⟩
    · exact hn
    · exact absurd hsame (hfree x hx)
  refine ⟨hn, fun hblock => ?_⟩
  rw [m.blockNames_eq] at hblock
  obtain ⟨e, he, rfl⟩ := List.mem_map.mp hblock
  cases hbase : e.1.base with
  | none => exact hap.plain_mentioned e he hbase hn
  | some x =>
    exact hfree x (m.mem_extensions.mpr ⟨e, he, hbase⟩) (m.typeName_of_base he hbase).symm

include hd hap in
/-- The imports bind no name twice. -/
theorem nodup_localNames_of_apart : m.imports.localNames.Nodup := by
  have hinj : ∀ e ∈ m.imports.arranged, ∀ e' ∈ m.imports.arranged,
      Imports.localName e = Imports.localName e' → e = e' := by
    -- an alias is neither mentioned nor the alias of another type
    have hmixed : ∀ {n n' a : String}, (n, none) ∈ m.imports.arranged →
        (n', some a) ∈ m.imports.arranged → n ≠ a := by
      rintro n n' a hbare halias rfl
      exact hap.alias_mentioned n (m.mem_aliases halias) (mentioned_of_bare hd hap hbare).1
    rintro ⟨n, x⟩ he ⟨n', x'⟩ he' hsame
    cases x with
    | none =>
      cases x' with
      | none => exact congrArg (·, none) hsame
      | some a => exact absurd hsame (hmixed he he')
    | some a =>
      cases x' with
      | none => exact absurd hsame.symm (hmixed he' he)
      | some a' =>
        obtain ⟨x, hx, rfl, rfl, -⟩ := m.extension_of_alias (Imports.mem_arranged.mp he)
        obtain ⟨y, hy, rfl, rfl, -⟩ := m.extension_of_alias (Imports.mem_arranged.mp he')
        rw [List.inj_on_of_nodup_map hap.nodup_aliases hx hy hsame]
  exact m.nodup_arranged.map_on hinj

include hd hap in
/-- **Names that stay apart are bound once.** -/
theorem nodup_boundNames_of_apart : m.boundNames.Nodup := by
  have hnames : View.typeNames m.typed = m.blockNames := m.blockNames_eq.symm
  -- left are imports against declarations, and against the last type
  refine m.nodup_boundNames.mpr ⟨⟨nodup_localNames_of_apart hd hap, hd, fun n hn => ?_⟩,
    fun hn => ?_, hnames ▸ hap.rollup_declared⟩
  · obtain ⟨⟨n, x⟩, he, rfl⟩ := List.mem_map.mp hn
    cases x with
    | none => exact (mentioned_of_bare hd hap he).2
    | some a => exact hnames ▸ hap.alias_declared a (m.mem_aliases he)
  · obtain ⟨⟨n, x⟩, he, hrollup⟩ := List.mem_map.mp hn
    cases x with
    | none =>
      obtain rfl : n = s.rollupTypeName := hrollup
      exact hap.rollup_mentioned (mentioned_of_bare hd hap he).1
    | some a =>
      obtain rfl : a = s.rollupTypeName := hrollup
      exact hap.rollup_alias (m.mem_aliases he)

end Apart

/-! ## From bindings to names that stay apart -/

section Bound

variable {m} (hd : m.blockNames.Nodup)

include hd in
/-- No two views extend one type. -/
theorem nodup_extensions : (View.extensions m.typed).Nodup := by
  have htyped : m.typed.Pairwise fun e e' => e.1.typeName ≠ e'.1.typeName := by
    rw [m.blockNames_eq] at hd
    exact List.pairwise_map.mp hd
  refine List.pairwise_filterMap.mpr (htyped.imp_of_mem ?_)
  rintro e e' he he' hne x hx y hy rfl
  exact hne ((m.typeName_of_base he hx).trans (m.typeName_of_base he' hy).symm)

variable (hlocal : m.imports.localNames.Nodup)
  (happart : ∀ n ∈ m.imports.localNames, n ∉ m.blockNames)

include hd happart in
/-- What is extended is imported under the alias of the extension, since it
cannot keep its name beside the declaration. -/
theorem aliased_of_bound {x : Extension} (hx : x ∈ View.extensions m.typed) :
    (x.hostType, some x.localName) ∈ m.imports.arranged
      ∧ x.localName ≠ "" ∧ x.localName ≠ x.hostType := by
  have hentry := m.find?_hostType hd hx
  by_cases hproper : x.localName ≠ "" ∧ x.localName ≠ x.hostType
  · rw [if_pos hproper] at hentry
    exact ⟨Imports.mem_arranged.mpr hentry, hproper⟩
  · rw [if_neg hproper] at hentry
    have hbare : x.hostType ∈ m.imports.localNames :=
      List.mem_map.mpr ⟨_, Imports.mem_arranged.mpr hentry, rfl⟩
    exact absurd (m.hostType_mem_blockNames hx) (happart _ hbare)

include hlocal in
theorem eq_of_localName {e e' : String × Option String} (he : e ∈ m.imports.arranged)
    (he' : e' ∈ m.imports.arranged) (h : Imports.localName e = Imports.localName e') : e = e' :=
  List.inj_on_of_nodup_map hlocal he he' h

include hd hlocal happart in
theorem nodup_aliases_of_bound : (View.aliases m.typed).Nodup := by
  refine (nodup_extensions hd).map_on ?_
  intro x hx y hy hsame
  have hentry := eq_of_localName hlocal (aliased_of_bound hd happart hx).1
    (aliased_of_bound hd happart hy).1 hsame
  exact m.eq_of_hostType hd hx hy (Prod.mk.inj hentry).1

include hd happart in
theorem alias_mem_localNames {a : String} (ha : a ∈ View.aliases m.typed) :
    a ∈ m.imports.localNames := by
  obtain ⟨x, hx, rfl⟩ := List.mem_map.mp ha
  exact List.mem_map.mpr ⟨_, (aliased_of_bound hd happart hx).1, rfl⟩

include hd hlocal happart in
/-- An alias is mentioned by no member. -/
theorem alias_mentioned_of_bound {a : String} (ha : a ∈ View.aliases m.typed) :
    a ∉ View.mentioned s m.typed := by
  intro hn
  -- it would be bound as it is, once more than as an alias
  rcases m.binds_of_mentioned hn with hblock | hbare
  · exact happart a (alias_mem_localNames hd happart ha) hblock
  · obtain ⟨x, hx, rfl⟩ := List.mem_map.mp ha
    have hentry := eq_of_localName hlocal hbare (aliased_of_bound hd happart hx).1 rfl
    cases (Prod.mk.inj hentry).2

include hd happart in
/-- The type of a collection of the project is mentioned by no member as one
of the host. -/
theorem plain_mentioned_of_bound {e : View.Typed} (he : e ∈ m.typed)
    (hplain : e.1.base = none) : e.1.typeName ∉ View.mentioned s m.typed := by
  intro hn
  have hblock : e.1.typeName ∈ m.blockNames := by
    rw [m.blockNames_eq]
    exact List.mem_map_of_mem he
  rcases m.imported_of_mentioned hn with hbare | ⟨x, hx, hsame⟩
  · exact happart _ (List.mem_map.mpr ⟨_, hbare, rfl⟩) hblock
  · obtain ⟨e', he', hbase⟩ := m.mem_extensions.mp hx
    have htype : e.1.typeName = e'.1.typeName :=
      hsame.symm.trans (m.typeName_of_base he' hbase).symm
    rw [m.eq_of_typeName hd he he' htype, hbase] at hplain
    cases hplain

end Bound

/-- **No name is bound twice** exactly if the names of the sources stay
apart. -/
theorem nodup_boundNames_iff (hd : m.blockNames.Nodup) :
    m.boundNames.Nodup ↔ View.Apart s m.typed := by
  refine ⟨fun h => ?_, nodup_boundNames_of_apart hd⟩
  obtain ⟨⟨hlocal, -, happart⟩, hrollup, hrollup'⟩ := m.nodup_boundNames.mp h
  constructor
  · intro ha
    obtain ⟨x, hx, hempty⟩ := List.mem_map.mp ha
    exact (aliased_of_bound hd happart hx).2.1 hempty
  · exact nodup_aliases_of_bound hd hlocal happart
  · exact fun a ha => alias_mentioned_of_bound hd hlocal happart ha
  · intro a ha
    rw [← m.blockNames_eq]
    exact happart a (alias_mem_localNames hd happart ha)
  · exact fun e he hplain => plain_mentioned_of_bound hd happart he hplain
  · intro hn
    rcases m.binds_of_mentioned hn with hblock | hbare
    · exact hrollup' hblock
    · exact hrollup (List.mem_map.mpr ⟨_, hbare, rfl⟩)
  · exact fun ha => hrollup (alias_mem_localNames hd happart ha)
  · rw [← m.blockNames_eq]
    exact hrollup'

end Making

/-! ## Runs that warn of nothing -/

/-- **No collision is logged** in a run. -/
def Run.NoCollision (r : Run) : Prop :=
  ∀ other name typeName,
    (⟨.warning, View.collisionText other name typeName⟩ : Entry) ∉ r.journal

/-- What is said about collections is not said about a relation. -/
theorem View.collisionText_ne_complaint (other name typeName : String) (r : Relation) :
    collisionText other name typeName ≠ r.complaint := by
  intro h
  -- they differ in the first letter
  have hstart : ∀ (c : Char) (start rest : String), start.toList.head? = some c →
      (start ++ rest).toList.head? = some c := by
    intro c start rest hc
    rw [String.toList_append, List.head?_append, hc, Option.some_or]
  unfold collisionText Relation.complaint at h
  simp only [String.append_assoc] at h
  have hcollision := hstart 'C' "Collections "
    (other ++ (" and " ++ (name ++ (" both generate type " ++ typeName)))) rfl
  rw [h, hstart 'R' "Relation on field '" _ rfl] at hcollision
  cases hcollision

/-- **A run logs a collision** exactly if two declarations have one name. -/
theorem Making.noCollision_iff {s : Settings} {schema records : Value}
    (m : Making s schema records) (noted : Bool) :
    (Run.ofSchema noted s schema records).NoCollision ↔ m.blockNames.Nodup := by
  rw [m.blockNames_perm.nodup_iff, ← View.collisions_eq_nil_iff m.nodup_names]
  constructor
  · intro h
    refine List.eq_nil_iff_forall_not_mem.mpr fun t ht => ?_
    obtain ⟨other, name, typeName, rfl⟩ := View.eq_collisionText_of_mem ht
    exact h other name typeName ((m.warned_iff noted).mpr (.inl ht))
  · intro h other name typeName hlogged
    rcases (m.warned_iff noted).mp hlogged with hcollision | ⟨-, hrelation⟩
    · rw [h] at hcollision
      cases hcollision
    · obtain ⟨r, -, hsame⟩ := Linking.complaint_of_mem_warnings hrelation
      exact View.collisionText_ne_complaint other name typeName r hsame

/-- **When a document binds no name twice.** If no collision is logged, the
declarations have distinct names, and all the names that the document binds
are distinct exactly if those of the different sources stay apart. -/
theorem bound_names_distinct_iff {noted : Bool} {schema records : Value} {options : Options}
    {s : Settings} {text : String} (hs : options.settings = .ok s)
    (h : (buildDocument noted schema options records).text = .ok text)
    (hlog : (buildDocument noted schema options records).NoCollision) :
    ∃ m : Making s schema records, text = m.document.text m.layout
      ∧ m.blockNames.Nodup ∧ (m.boundNames.Nodup ↔ View.Apart s m.typed) := by
  obtain ⟨m, rfl⟩ := (buildDocument_ok_iff hs).mp h
  unfold buildDocument at hlog
  rw [hs] at hlog
  have hd : m.blockNames.Nodup := (m.noCollision_iff noted).mp hlog
  exact ⟨m, rfl, hd, m.nodup_boundNames_iff hd⟩

/-- What the document of a blog is about stays apart. -/
theorem blog_apart (m : Making {} Outline.blog.overview .null) : View.Apart {} m.typed := by
  have hchecked : (Making.viewsOf {} Outline.blog.overview .null).toOption.all (fun r =>
      (r.2.mapM (View.typed {})).toOption.all fun es => decide (View.Apart {} es)) = true := by
    decide +kernel
  obtain ⟨es, hes, hperm⟩ := m.exists_perm_typed
  rw [m.viewsOf_eq] at hchecked
  replace hchecked : (m.views.mapM (View.typed {})).toOption.all
      (fun es => decide (View.Apart {} es)) = true := hchecked
  rw [hes] at hchecked
  have hap : View.Apart {} es := of_decide_eq_true hchecked
  exact hap.perm hperm.symm

/-- The document of a blog binds no name twice. -/
theorem blog_bound_names_distinct :
    Options.absent.settings = .ok {}
      ∧ ∃ text, (buildDocument false Outline.blog.overview .absent .null).text = .ok text
        ∧ (buildDocument false Outline.blog.overview .absent .null).NoCollision
        ∧ ∃ m : Making {} Outline.blog.overview .null, text = m.document.text m.layout
          ∧ View.Apart {} m.typed ∧ m.boundNames.Nodup := by
  have hs : Options.absent.settings = .ok {} := rfl
  obtain ⟨text, htext⟩ := Outline.blog.exists_text false hs rfl
  have hlog : (buildDocument false Outline.blog.overview .absent .null).NoCollision := by
    obtain ⟨m, -⟩ := (buildDocument_ok_iff hs).mp htext
    exact (m.noCollision_iff false).mpr (blog_links_meet m).2
  obtain ⟨m, hm, -, hbound⟩ := bound_names_distinct_iff hs htext hlog
  exact ⟨hs, text, htext, hlog, m, hm, blog_apart m, hbound.mpr (blog_apart m)⟩

/-! ## A name that is bound twice -/

/-- The type of the host's users is imported as `User`, and so is that of the
project's users declared. -/
theorem shadowed_binds_user (m : Making {} Outline.shadowed.overview .null) :
    m.imports.find? "User" = some none ∧ m.blockNames = ["User"] := by
  have hchecked : (Making.typedOf {} Outline.shadowed.overview .null).toOption.all (fun es =>
      decide ((View.importsFrom (Imports.ofNames ["PrimaryKey"]) es).find? "User" = some none
        ∧ View.typeNames es = ["User"])) = true := by
    decide +kernel
  rw [m.typedOf_eq] at hchecked
  rw [m.blockNames_eq]
  exact of_decide_eq_true hchecked

/-- **A document can bind a name twice** though no collision is logged: the
name is imported for a member, and declared for a collection. -/
theorem shadowed_name_is_bound_twice :
    Options.absent.settings = .ok {}
      ∧ ∃ text, (buildDocument false Outline.shadowed.overview .absent .null).text = .ok text
        ∧ (buildDocument false Outline.shadowed.overview .absent .null).NoCollision
        ∧ ∃ m : Making {} Outline.shadowed.overview .null, text = m.document.text m.layout
          ∧ "User" ∈ m.imports.localNames ∧ "User" ∈ m.blockNames ∧ ¬ m.boundNames.Nodup := by
  have hs : Options.absent.settings = .ok {} := rfl
  obtain ⟨text, htext⟩ := Outline.shadowed.exists_text false hs rfl
  obtain ⟨m, hm⟩ := (buildDocument_ok_iff hs).mp htext
  obtain ⟨himport, hblocks⟩ := shadowed_binds_user m
  have hd : m.blockNames.Nodup := hblocks ▸ List.nodup_singleton "User"
  have hlocal : "User" ∈ m.imports.localNames :=
    List.mem_map.mpr ⟨_, Imports.mem_arranged.mpr himport, rfl⟩
  have hblock : "User" ∈ m.blockNames := hblocks ▸ List.mem_cons_self
  refine ⟨hs, text, htext, (m.noCollision_iff false).mpr hd, m, hm, hlocal, hblock, ?_⟩
  intro hbound
  obtain ⟨⟨-, -, happart⟩, -⟩ := m.nodup_boundNames.mp hbound
  exact happart "User" hlocal hblock

end CollectionTypes
