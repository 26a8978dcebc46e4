import CollectionTypes.Proofs.Generation.Bindings
import CollectionTypes.Proofs.Generation.Members

/-!
# What a document imports

A document imports the type of the keys, the types of the host that members
refer to, and the types of the host that declarations extend; each of them
once, in ascending order, and nothing else. A type of the host goes by an
alias if a declaration that extends it gives one, and of several aliases the
one counts whose declaration comes last (`Making.HasHeader`).

The table of the imports is filled while the declarations are made, by
registrations of names with an alias and of names without. The alias of a name
is the last one registered for it, whatever is registered without one in
between (`Imports.join_find?_foldl`). That is why references to a type neither
take its alias away nor change it.
-/

namespace CollectionTypes

open Outcome

namespace Imports

/-- Registrations without an alias do not count for the aliases. -/
theorem aliasesOf_filter (rs : List Registration) :
    aliasesOf (rs.filter fun r => r.2.isSome) = aliasesOf rs := by
  unfold aliasesOf
  rw [List.filterMap_filter]
  refine List.filterMap_congr fun r _ => ?_
  obtain ⟨n, a⟩ := r
  cases a <;> rfl

end Imports

namespace View

/-- The alias that a view gives to the type that it extends; none if it says
nothing. -/
def alias? (e : Typed) : Option (String × String) :=
  e.1.base.bind fun x =>
    (Imports.Registration.alias? (x.hostType, some x.localName)).map (x.hostType, ·)

theorem aliasesOf_registrations (e : Typed) :
    Imports.aliasesOf (registrations e) = (alias? e).toList := by
  unfold registrations alias?
  rw [Imports.aliasesOf_append, Imports.aliasesOf_bare, List.nil_append]
  cases e.1.base with
  | none => rfl
  | some x =>
    rw [Option.bind_some, Option.map_some, Option.toList_some, Imports.aliasesOf,
      List.filterMap_cons]
    cases Imports.Registration.alias? (x.hostType, some x.localName) <;> rfl

theorem alias?_eq_some_iff {e : Typed} {n a : String} :
    alias? e = some (n, a) ↔ e.1.base = some ⟨n, a⟩ ∧ a ≠ "" ∧ a ≠ n := by
  have hproper : ∀ x : Extension,
      (Imports.Registration.alias? (x.hostType, some x.localName)).map (x.hostType, ·)
          = some (n, a)
        ↔ x = ⟨n, a⟩ ∧ a ≠ "" ∧ a ≠ n := by
    intro x
    unfold Imports.Registration.alias?
    rw [Option.map_eq_some_iff]
    simp only [Option.filter_eq_some_iff, Bool.and_eq_true, bne_iff_ne]
    constructor
    · rintro ⟨a, ⟨hlocal, hproper⟩, hsame⟩
      cases hsame
      cases hlocal
      exact ⟨rfl, hproper⟩
    · rintro ⟨rfl, hproper⟩
      exact ⟨a, ⟨rfl, hproper⟩, rfl⟩
  unfold alias?
  simp only [Option.bind_eq_some_iff, hproper]
  constructor
  · rintro ⟨x, hbase, rfl, hproper⟩
    exact ⟨hbase, hproper⟩
  · rintro ⟨hbase, hproper⟩
    exact ⟨_, hbase, rfl, hproper⟩

end View

namespace Making

variable {s : Settings} {schema records : Value} (m : Making s schema records)

/-! ## What asks for an import -/

/-- **A member mentions a type of the host**: its field is shown and no primary
key, and has a link to the collection of that type. -/
def MentionsHost (name : String) : Prop :=
  ∃ key c f l, m.index.find? key = some c ∧ c.isShown = true ∧ f ∈ c.shownFields
    ∧ f.name.means c.primary = false ∧ f.relation = some l ∧ l.NamesHost s name

/-- **A declaration extends a type of the host**: it is for one of the host's
collections, which gives the type its name. -/
def Extends (collection hostType baseType : String) : Prop :=
  ∃ c b, (c, b) ∈ m.declarations ∧ c.name = .text collection ∧ c.isSystem = true
    ∧ hostType = Naming.unmarkedTypeName s.systemPrefix collection ∧ baseType = b.baseType

/-- A declaration gives the type that it extends an alias that says
something. -/
def GivesAlias (collection hostType localName : String) : Prop :=
  m.Extends collection hostType localName ∧ localName ≠ "" ∧ localName ≠ hostType

/-- **A type of the host goes by an alias**, that of the last declaration which
gives it one. -/
def GoesBy (hostType localName : String) : Prop :=
  ∃ collection, m.GivesAlias collection hostType localName
    ∧ ∀ other localName', m.GivesAlias other hostType localName' → other ≤ collection

/-- A view of the document has a declaration. -/
theorem exists_declared {e : View.Typed} (he : e ∈ m.typed) :
    ∃ b, (e.1.collection, b) ∈ m.declarations ∧ View.declared s e = .ok b := by
  obtain ⟨b, -, hb⟩ := forall₂_exists_right (mapM_ok_iff.mp m.blocks_ok) he
  exact ⟨b, m.mem_declarations.mpr ⟨e, he, rfl, hb⟩, hb⟩

/-- What is extended can be told from the views. -/
theorem extends_iff {collection hostType baseType : String} :
    m.Extends collection hostType baseType
      ↔ ∃ e ∈ m.typed, e.1.name = collection ∧ e.1.base = some ⟨hostType, baseType⟩ := by
  constructor
  · rintro ⟨c, b, hdeclaration, hname, hsystem, rfl, rfl⟩
    obtain ⟨e, he, rfl, hb⟩ := m.mem_declarations.mp hdeclaration
    have hshows := m.shows_of_mem (m.mem_views he)
    have hcalled : e.1.name = collection := Name.text.inj (hshows.name.symm.trans hname)
    have hbase := hshows.base
    rw [Collection.extended?, if_pos hsystem, hcalled] at hbase
    refine ⟨e, he, hcalled, ?_⟩
    rw [hbase, (View.declared_ok_iff.mp hb).2.2.1, hbase]
    rfl
  · rintro ⟨e, he, rfl, hbase⟩
    have hshows := m.shows_of_mem (m.mem_views he)
    obtain ⟨b, hdeclaration, hb⟩ := m.exists_declared he
    have hlocal := (View.declared_ok_iff.mp hb).2.2.1
    rw [hbase] at hlocal
    rw [hshows.base, Collection.extended?] at hbase
    split at hbase
    · next hsystem =>
      refine ⟨_, b, hdeclaration, hshows.name, hsystem, ?_, hlocal.symm⟩
      exact (congrArg Extension.hostType (Option.some.inj hbase)).symm
    · cases hbase

/-- **What members mention of the host** can be told from the fields that are
shown. -/
theorem mem_mentioned {name : String} :
    name ∈ View.mentioned s m.typed ↔ name = s.primaryKeyType ∨ m.MentionsHost name := by
  unfold View.mentioned
  rw [List.mem_cons, List.mem_flatMap]
  constructor
  · rintro (rfl | ⟨e, he, hname⟩)
    · exact .inl rfl
    · obtain ⟨p, hp, hhost⟩ := List.mem_filterMap.mp hname
      obtain ⟨-, hfields, htypes⟩ := View.typed_ok_iff.mp (m.typed_of_mem he)
      obtain ⟨b, hdeclaration, hb⟩ := m.exists_declared he
      rcases (Field.host_of_memberType_iff (htypes p hp)).mp hhost with
        ⟨-, hpk⟩ | ⟨hkey, l, hl, hnames⟩
      · exact .inl hpk
      · obtain ⟨key, hc⟩ := m.find?_of_declaration hdeclaration
        have hshown : p.1 ∈ e.1.collection.shownFields :=
          (m.memberOrder_of_mem he hb).perm.mem_iff.mp (hfields ▸ List.mem_map_of_mem hp)
        exact .inr ⟨key, _, p.1, l, hc.1, hc.2, hshown, hkey, hl, hnames⟩
  · rintro (rfl | ⟨key, c, f, l, hc, hshown, hf, hkey, hl, hnames⟩)
    · exact .inl rfl
    · obtain ⟨b, hb⟩ := m.exists_declaration (Table.mem_values_iff.mpr ⟨key, hc⟩) hshown
      obtain ⟨e, he, rfl, hdeclared⟩ := m.mem_declarations.mp ((hb b).mpr rfl)
      obtain ⟨-, hfields, htypes⟩ := View.typed_ok_iff.mp (m.typed_of_mem he)
      have hmember : f ∈ e.2.map Prod.fst :=
        hfields ▸ (m.memberOrder_of_mem he hdeclared).perm.mem_iff.mpr hf
      obtain ⟨p, hp, rfl⟩ := List.mem_map.mp hmember
      have hhost := (Field.host_of_memberType_iff (htypes p hp)).mpr
        (.inr ⟨hkey, l, hl, hnames⟩)
      exact .inr ⟨e, he, List.mem_filterMap.mpr ⟨p, hp, hhost⟩⟩

/-! ## The header -/

/-- The table of the imports is made of what is registered. -/
theorem imports_eq_foldl : m.imports = m.registrations.foldl Imports.register Table.empty := by
  unfold imports registrations
  rw [View.importsFrom_eq_foldl, List.foldl_append]
  rfl

theorem aliasesOf_registrations :
    Imports.aliasesOf m.registrations = m.typed.filterMap View.alias? := by
  unfold registrations
  rw [Imports.aliasesOf_append, Imports.aliasesOf_bare, List.nil_append,
    List.filterMap_eq_flatMap_toList]
  induction m.typed with
  | nil => rfl
  | cons e es ih =>
    rw [List.flatMap_cons, List.flatMap_cons, Imports.aliasesOf_append, ih,
      View.aliasesOf_registrations]

/-- **What is written with an alias** goes by it. -/
theorem aliased_iff {n a : String} : (n, some a) ∈ m.imports.arranged ↔ m.GoesBy n a := by
  rw [Imports.mem_arranged_some, m.imports_eq_foldl, Imports.join_find?_foldl,
    m.aliasesOf_registrations, Table.lastOf_filterMap_eq_some_iff m.ascending_typed]
  unfold GoesBy GivesAlias
  simp only [View.alias?_eq_some_iff, extends_iff]
  constructor
  · rintro ⟨e, he, ⟨hbase, hproper⟩, hlast⟩
    refine ⟨e.1.name, ⟨⟨e, he, rfl, hbase⟩, hproper⟩, ?_⟩
    rintro other a' ⟨⟨e', he', rfl, hbase'⟩, hproper'⟩
    exact hlast e' he' a' ⟨hbase', hproper'⟩
  · rintro ⟨collection, ⟨⟨e, he, rfl, hbase⟩, hproper⟩, hlast⟩
    refine ⟨e, he, ⟨hbase, hproper⟩, ?_⟩
    rintro e' he' a' ⟨hbase', hproper'⟩
    exact hlast e'.1.name a' ⟨⟨e', he', rfl, hbase'⟩, hproper'⟩

theorem mem_extensions_iff {n : String} :
    (∃ x ∈ View.extensions m.typed, x.hostType = n) ↔ ∃ collection base, m.Extends collection n base := by
  simp only [mem_extensions, extends_iff]
  constructor
  · rintro ⟨x, ⟨e, he, hbase⟩, rfl⟩
    exact ⟨_, _, e, he, rfl, hbase⟩
  · rintro ⟨_, base, e, he, -, hbase⟩
    exact ⟨_, ⟨e, he, hbase⟩, rfl⟩

/-- **What is imported** is the type of the keys, what members mention of the
host, and what declarations extend. -/
theorem imported_iff {n : String} :
    n ∈ m.imports.arranged.map Prod.fst
      ↔ n = s.primaryKeyType ∨ m.MentionsHost n ∨ ∃ collection base, m.Extends collection n base := by
  rw [Imports.mem_map_fst_arranged, m.made_imports.mem, ← or_assoc, ← m.mem_mentioned,
    ← m.mem_extensions_iff]
  simp only [m.mem_registrations]
  constructor
  · rintro ⟨r, ⟨n, hn, rfl⟩ | ⟨x, hx, rfl⟩, rfl⟩
    · exact .inl hn
    · exact .inr ⟨x, hx, rfl⟩
  · rintro (hn | ⟨x, hx, rfl⟩)
    · exact ⟨_, .inl ⟨n, hn, rfl⟩, rfl⟩
    · exact ⟨_, .inr ⟨x, hx, rfl⟩, rfl⟩

/-- **The header of a document**, as entries of names and aliases. -/
structure HasHeader (entries : List (String × Option String)) : Prop where
  written : m.document.specifiers = entries.map Imports.specifier
  /-- Every name is imported once, in strictly ascending order. -/
  ascending : entries.Pairwise fun e e' => e.1 < e'.1
  names : ∀ n, n ∈ entries.map Prod.fst
    ↔ n = s.primaryKeyType ∨ m.MentionsHost n ∨ ∃ collection base, m.Extends collection n base
  aliases : ∀ n a, (n, some a) ∈ entries ↔ m.GoesBy n a
  /-- References leave the aliases alone: with any registrations whose part
  with an alias is that of the document, the aliases are those of the
  document. -/
  references : ∀ rs : List Imports.Registration,
    (rs.filter fun r => r.2.isSome) = (m.registrations.filter fun r => r.2.isSome) →
      ∀ n a, (n, some a) ∈ Imports.arranged (rs.foldl Imports.register Table.empty)
        ↔ (n, some a) ∈ entries

theorem hasHeader : m.HasHeader m.imports.arranged where
  written := rfl
  ascending := m.imports.ascending_arranged
  names _ := m.imported_iff
  aliases _ _ := m.aliased_iff
  references rs hrs n a := by
    rw [Imports.mem_arranged_some, Imports.mem_arranged_some, m.imports_eq_foldl,
      Imports.join_find?_foldl, Imports.join_find?_foldl, ← Imports.aliasesOf_filter rs, hrs,
      Imports.aliasesOf_filter]

end Making

/-- **What a document imports.** Every document that comes out imports the type
of the keys, what members mention of the host and what declarations extend,
each once and in ascending order; and a type goes by the alias of the last
declaration that gives it one. -/
theorem header_is_exact {noted : Bool} {schema records : Value} {options : Options}
    {s : Settings} {text : String} (hs : options.settings = .ok s)
    (h : (buildDocument noted schema options records).text = .ok text) :
    ∃ m : Making s schema records, text = m.document.text m.layout
      ∧ ∃ entries, m.HasHeader entries := by
  obtain ⟨m, rfl⟩ := (buildDocument_ok_iff hs).mp h
  exact ⟨m, rfl, _, m.hasHeader⟩

/-- The users of the host go by an alias in the document of a blog. -/
theorem blog_users_go_by_alias (m : Making {} Outline.blog.overview .null) :
    m.GoesBy "User" "DirectusUser" := by
  have hchecked : (Making.viewsOf {} Outline.blog.overview .null).toOption.all (fun r => decide
      ((r.2.filter View.isExtension).map (fun v => (v.name, v.base))
        = [("directus_users", some ⟨"User", "DirectusUser"⟩)])) = true := by
    decide +kernel
  rw [m.viewsOf_eq] at hchecked
  replace hchecked := of_decide_eq_true hchecked
  have hextends : ∀ collection hostType base, m.Extends collection hostType base
      ↔ collection = "directus_users" ∧ hostType = "User" ∧ base = "DirectusUser" := by
    intro collection hostType base
    have hviews : (collection, some ⟨hostType, base⟩)
        ∈ (m.views.filter View.isExtension).map (fun v => (v.name, v.base))
          ↔ m.Extends collection hostType base := by
      rw [m.extends_iff, List.mem_map]
      constructor
      · rintro ⟨v, hv, hsame⟩
        obtain ⟨hname, hbase⟩ := Prod.mk.inj hsame
        have hmem := m.map_fst_typed_perm.mem_iff.mpr (List.mem_filter.mp hv).1
        obtain ⟨e, he, rfl⟩ := List.mem_map.mp hmem
        exact ⟨e, he, hname, hbase⟩
      · rintro ⟨e, he, rfl, hbase⟩
        refine ⟨e.1, List.mem_filter.mpr ⟨m.mem_views he, ?_⟩, by rw [hbase]⟩
        exact Option.isSome_iff_exists.mpr ⟨_, hbase⟩
    rw [← hviews, hchecked, List.mem_singleton, Prod.mk.injEq, Option.some.injEq,
      Extension.mk.injEq]
  have hgives := (hextends _ _ _).mpr ⟨rfl, rfl, rfl⟩
  refine ⟨"directus_users", ⟨hgives, by decide, by decide⟩, ?_⟩
  rintro other localName ⟨hother, -⟩
  obtain ⟨rfl, -, -⟩ := (hextends _ _ _).mp hother
  exact String.le_refl _

/-- The document of a blog imports the type of the keys, and the users of the
host under an alias. -/
theorem blog_header_is_exact :
    Options.absent.settings = .ok {}
      ∧ ∃ text, (buildDocument false Outline.blog.overview .absent .null).text = .ok text
        ∧ ∃ m : Making {} Outline.blog.overview .null, text = m.document.text m.layout
          ∧ ∃ entries, m.HasHeader entries ∧ "PrimaryKey" ∈ entries.map Prod.fst
            ∧ "User as DirectusUser" ∈ m.document.specifiers := by
  have hs : Options.absent.settings = .ok {} := rfl
  obtain ⟨text, htext⟩ := Outline.blog.exists_text false hs rfl
  obtain ⟨m, hm, entries, hheader⟩ := header_is_exact hs htext
  have halias := (hheader.aliases _ _).mpr (blog_users_go_by_alias m)
  refine ⟨hs, text, htext, m, hm, entries, hheader, (hheader.names _).mpr (.inl rfl), ?_⟩
  rw [hheader.written]
  exact List.mem_map.mpr ⟨_, halias, by decide +kernel⟩

end CollectionTypes
