import CollectionTypes.Proofs.Document.Imported
import CollectionTypes.Proofs.Document.Reference
import CollectionTypes.Proofs.Generation.Outlined

/-!
# What a document binds

A document binds the names that it imports, each under its alias if it has
one, and the names of the types that it declares. A member may name a type of
the host, which is imported for it, or the type of a collection of the
project, which is declared. When a declaration extends the type of the host,
that type is imported under an alias, and it is the declaration that takes the
name; so what a member names is bound in any case (`names_are_bound`).
-/

namespace CollectionTypes

open Outcome

/-! ## The import table in writing -/

namespace Imports

/-- The name that an entry binds. -/
def localName (e : String × Option String) : String :=
  e.2.getD e.1

/-- **The names that the imports bind**, in the order in which they are
written. -/
def localNames (t : Imports) : List String :=
  t.arranged.map localName

end Imports

namespace Making

variable {s : Settings} {schema records : Value} (m : Making s schema records)

/-! ## What is bound, and what asks for it -/

/-- The names of the types that the document declares for collections. -/
def blockNames : List String :=
  m.document.blocks.map Block.typeName

/-- **A name is bound as it is**: it is declared, or imported without an
alias. -/
def Binds (name : String) : Prop :=
  name ∈ m.blockNames ∨ (name, none) ∈ m.imports.arranged

theorem blockNames_eq : m.blockNames = View.typeNames m.typed := by
  have h := mapM_ok_iff.mp m.blocks_ok
  have hmap : ∀ {es : List View.Typed} {bs : List Block},
      List.Forall₂ (fun e b => View.declared s e = .ok b) es bs →
        bs.map Block.typeName = View.typeNames es := by
    intro es bs h
    induction h with
    | nil => rfl
    | cons hb _ ih =>
      rw [List.map_cons, ih, (View.declared_ok_iff.mp hb).2.1]
      rfl
  exact hmap h

theorem blockNames_perm : m.blockNames.Perm (m.views.map View.typeName) := by
  have hnames := m.map_fst_typed_perm.map View.typeName
  rw [List.map_map] at hnames
  exact m.blockNames_eq ▸ hnames

theorem mem_extensions {x : Extension} :
    x ∈ View.extensions m.typed ↔ ∃ e ∈ m.typed, e.1.base = some x :=
  List.mem_filterMap

/-- An extension takes the name of the type that it extends. -/
theorem typeName_of_base {e : View.Typed} (he : e ∈ m.typed) {x : Extension}
    (hx : e.1.base = some x) : e.1.typeName = x.hostType := by
  have hshows := m.shows_of_mem (m.mem_views he)
  rw [hshows.base] at hx
  rw [hshows.typeName]
  unfold Collection.extended? at hx
  unfold Collection.declaredName
  split at hx
  · next h =>
    rw [if_pos h, ← Option.some.inj hx]
  · cases hx

/-- What was registered for the imports. -/
def registrations : List Imports.Registration :=
  [s.primaryKeyType].map (·, none) ++ m.typed.flatMap View.registrations

theorem made_imports : Imports.Made m.registrations m.imports :=
  View.made_importsFrom _ _

theorem mem_registrations {r : Imports.Registration} :
    r ∈ m.registrations
      ↔ (∃ n ∈ View.mentioned s m.typed, r = (n, none))
        ∨ ∃ x ∈ View.extensions m.typed, r = (x.hostType, some x.localName) := by
  unfold registrations View.mentioned
  rw [List.mem_append, List.mem_flatMap]
  constructor
  · rintro (hr | ⟨e, he, hr⟩)
    · exact .inl ⟨_, List.mem_cons_self, List.mem_singleton.mp hr⟩
    · rcases View.mem_registrations.mp hr with ⟨n, hn, rfl⟩ | ⟨x, hx, rfl⟩
      · exact .inl ⟨n, List.mem_cons_of_mem _ (List.mem_flatMap.mpr ⟨e, he, hn⟩), rfl⟩
      · exact .inr ⟨x, m.mem_extensions.mpr ⟨e, he, hx⟩, rfl⟩
  · rintro (⟨n, hn, rfl⟩ | ⟨x, hx, rfl⟩)
    · rcases List.mem_cons.mp hn with rfl | hn
      · exact .inl List.mem_cons_self
      · obtain ⟨e, he, hn⟩ := List.mem_flatMap.mp hn
        exact .inr ⟨e, he, View.mem_registrations.mpr (.inl ⟨n, hn, rfl⟩)⟩
    · obtain ⟨e, he, hx⟩ := m.mem_extensions.mp hx
      exact .inr ⟨e, he, View.mem_registrations.mpr (.inr ⟨x, hx, rfl⟩)⟩

/-! ## Entries of the import table -/

/-- An alias in the table is that of an extension. -/
theorem extension_of_alias {n a : String} (h : m.imports.find? n = some (some a)) :
    ∃ x ∈ View.extensions m.typed, x.hostType = n ∧ x.localName = a ∧ a ≠ "" ∧ a ≠ n := by
  obtain ⟨r, hr, rfl, ha⟩ := m.made_imports.aliased n a h
  rcases m.mem_registrations.mp hr with ⟨n, -, rfl⟩ | ⟨x, hx, rfl⟩
  · cases ha
  · obtain ⟨hlocal, hproper⟩ := Option.filter_eq_some_iff.mp ha
    obtain rfl := Option.some.inj hlocal
    rw [Bool.and_eq_true, bne_iff_ne, bne_iff_ne] at hproper
    exact ⟨x, hx, rfl, rfl, hproper.1, hproper.2⟩

/-- **What is mentioned is imported**, as it is or because it is extended. -/
theorem imported_of_mentioned {n : String} (hn : n ∈ View.mentioned s m.typed) :
    (n, none) ∈ m.imports.arranged ∨ ∃ x ∈ View.extensions m.typed, x.hostType = n := by
  have hkey : n ∈ m.imports.keys :=
    (m.made_imports.mem n).mpr ⟨_, m.mem_registrations.mpr (.inl ⟨n, hn, rfl⟩), rfl⟩
  obtain ⟨alias?, hentry⟩ := Option.isSome_iff_exists.mp (Table.contains_iff_mem_keys.mpr hkey)
  cases alias? with
  | none => exact .inl (Imports.mem_arranged.mpr hentry)
  | some a =>
    obtain ⟨x, hx, hsame, -⟩ := m.extension_of_alias hentry
    exact .inr ⟨x, hx, hsame⟩

/-- What is extended is the type of a view. -/
theorem hostType_mem_blockNames {x : Extension} (hx : x ∈ View.extensions m.typed) :
    x.hostType ∈ m.blockNames := by
  obtain ⟨e, he, hbase⟩ := m.mem_extensions.mp hx
  rw [m.blockNames_eq, ← m.typeName_of_base he hbase]
  exact List.mem_map_of_mem he

/-- **What is mentioned is bound**: it is imported as it is, or the type is
declared that extends it. -/
theorem binds_of_mentioned {n : String} (hn : n ∈ View.mentioned s m.typed) : m.Binds n := by
  rcases m.imported_of_mentioned hn with hbare | ⟨x, hx, rfl⟩
  · exact .inr hbare
  · exact .inl (m.hostType_mem_blockNames hx)

/-- Types with one name are declared for one collection. -/
theorem eq_of_typeName (hd : m.blockNames.Nodup) {e e' : View.Typed} (he : e ∈ m.typed)
    (he' : e' ∈ m.typed) (h : e.1.typeName = e'.1.typeName) : e = e' :=
  List.inj_on_of_nodup_map (m.blockNames_eq ▸ hd) he he' h

theorem eq_of_hostType (hd : m.blockNames.Nodup) {x y : Extension} (hx : x ∈ View.extensions m.typed)
    (hy : y ∈ View.extensions m.typed) (h : x.hostType = y.hostType) : x = y := by
  obtain ⟨e, he, hbase⟩ := m.mem_extensions.mp hx
  obtain ⟨e', he', hbase'⟩ := m.mem_extensions.mp hy
  have hname : e.1.typeName = e'.1.typeName := by
    rw [m.typeName_of_base he hbase, m.typeName_of_base he' hbase', h]
  rw [m.eq_of_typeName hd he he' hname, hbase'] at hbase
  exact (Option.some.inj hbase).symm

/-- **What is extended is imported** under the alias of the extension, or as
it is if the alias says nothing. -/
theorem find?_hostType (hd : m.blockNames.Nodup) {x : Extension} (hx : x ∈ View.extensions m.typed) :
    m.imports.find? x.hostType
      = some (if x.localName ≠ "" ∧ x.localName ≠ x.hostType then some x.localName
          else none) := by
  have hreg : (x.hostType, some x.localName) ∈ m.registrations :=
    m.mem_registrations.mpr (.inr ⟨x, hx, rfl⟩)
  have hkey : x.hostType ∈ m.imports.keys := (m.made_imports.mem _).mpr ⟨_, hreg, rfl⟩
  obtain ⟨alias?, hentry⟩ := Option.isSome_iff_exists.mp (Table.contains_iff_mem_keys.mpr hkey)
  cases alias? with
  | none =>
    -- no alias was given, so that of the extension says nothing
    have hbare := m.made_imports.bare _ hentry _ hreg rfl
    have hidle : ¬ (x.localName ≠ "" ∧ x.localName ≠ x.hostType) := by
      rintro ⟨hne, hother⟩
      refine Option.filter_eq_none_iff.mp hbare x.localName rfl ?_
      rw [Bool.and_eq_true, bne_iff_ne, bne_iff_ne]
      exact ⟨hne, hother⟩
    rw [hentry, if_neg hidle]
  | some a =>
    -- the alias is that of the one extension of the type
    obtain ⟨y, hy, hsame, rfl, hne, hother⟩ := m.extension_of_alias hentry
    obtain rfl := m.eq_of_hostType hd hy hx hsame
    rw [hentry, if_pos ⟨hne, hother⟩]

end Making

/-! ## Names are bound -/

/-- **Whether a link meets something**: it is unresolved, or goes to a
collection that is indexed, or to a name that carries the mark of the host. -/
def Link.meets (s : Settings) (ix : Index) (l : Link) : Bool :=
  !l.isResolved || (ix.collection? l.related).toOption.join.isSome
    || (Naming.isMarkedOf (.text s.systemPrefix) l.related).toOption.getD false

/-- **The links of all members meet something.** -/
def Making.LinksMeet {s : Settings} {schema records : Value} (m : Making s schema records) :
    Prop :=
  ∀ v ∈ m.views, ∀ f ∈ v.fields, ∀ l, f.relation = some l → l.meets s m.index = true

/-- A link to the project's part of the index meets a collection there. -/
theorem Link.find?_of_meets {s : Settings} {ix : Index} {l : Link} {name : String}
    (hmeets : l.meets s ix = true) (hresolved : l.isResolved = true)
    (hrelated : l.related = .text name)
    (hproject : Naming.isMarked s.systemPrefix name = false) :
    ∃ c, ix.find? (.text name) = some c := by
  have hpresent : name ≠ "" := by
    unfold isResolved at hresolved
    rw [hrelated, Value.truthy_text, bne_iff_ne] at hresolved
    exact hresolved
  have hofText : Name.ofText? (some name) = some (.text name) := if_neg hpresent
  have hfound : ix.collection? (.text name)
      = .ok ((ix.find? (.text name)).map (Key.text name, ·)) := by
    rw [show Value.text name = .ofText? (some name) from rfl, Index.collection?_ofText?, hofText]
    rfl
  unfold meets at hmeets
  rw [hresolved, hrelated, hfound, Naming.isMarkedOf_text, hproject] at hmeets
  cases hc : ix.find? (.text name) with
  | none =>
    rw [hc] at hmeets
    cases hmeets
  | some c => exact ⟨c, rfl⟩

/-- Only a text has a text for its key. -/
theorem Name.eq_text_of_key {n : Name} {name : String} (h : n.key = .text name) :
    n = .text name := by
  cases n with
  | text s =>
    cases h
    rfl
  | flag b => cases h
  | int i => cases h
  | real x => cases x <;> cases h

namespace Making

variable {s : Settings} {schema records : Value} (m : Making s schema records)

/-- A collection of the project that is indexed is declared. -/
theorem declared_of_found {name : String} {c : Collection}
    (hfind : m.index.find? (.text name) = some c)
    (hproject : Naming.isMarked s.systemPrefix name = false) :
    Naming.typeName name ∈ m.blockNames := by
  have hkeyed := m.keyed _ _ hfind
  have hname : c.name = .text name := Name.eq_text_of_key hkeyed.name_key
  have hsystem : c.isSystem = false := by
    have hmarked := hkeyed.isMarked
    rw [hname] at hmarked
    exact (Except.ok.inj ((Naming.isMarkedOf_text _ _).symm.trans hmarked)).symm.trans hproject
  have hshown : c ∈ m.index.values.filter Collection.isShown := by
    refine List.mem_filter.mpr ⟨Table.mem_values_iff.mpr ⟨_, hfind⟩, ?_⟩
    rw [Collection.isShown, hsystem]
    rfl
  rw [← m.map_collection_views] at hshown
  obtain ⟨v, hv, rfl⟩ := List.mem_map.mp hshown
  have hshows := m.shows_of_mem hv
  have hcalled : v.name = name := Name.text.inj (hshows.name.symm.trans hname)
  obtain ⟨e, he, rfl⟩ := List.mem_map.mp (m.map_fst_typed_perm.mem_iff.mpr hv)
  have htype : e.1.typeName = Naming.typeName name := by
    rw [hshows.typeName, hcalled, Collection.declaredName, hsystem]
    rfl
  rw [m.blockNames_eq, ← htype]
  exact List.mem_map_of_mem he

/-- **What a member names is bound.** -/
theorem binds_of_mem_names (hlinks : m.LinksMeet) {e : View.Typed} (he : e ∈ m.typed)
    {p : Field × MemberType} (hp : p ∈ e.2) {name : String} (hname : name ∈ p.2.names) :
    m.Binds name := by
  obtain ⟨-, hfields, htypes⟩ := View.typed_ok_iff.mp (m.typed_of_mem he)
  -- a type of the host is imported, and that of a collection declared
  rcases Field.mem_names_of_memberType (htypes p hp) hname with hhost | ⟨l, hl, hnames⟩
  · refine m.binds_of_mentioned (List.mem_cons_of_mem _ (List.mem_flatMap.mpr ⟨e, he, ?_⟩))
    exact List.mem_filterMap.mpr ⟨p, hp, hhost⟩
  · obtain ⟨hresolved, related, hrelated, hproject, rfl⟩ := hnames
    have hf : p.1 ∈ e.1.fields := hfields ▸ List.mem_map_of_mem hp
    have hmeets := hlinks e.1 (m.mem_views he) p.1 hf l hl
    obtain ⟨c, hc⟩ := l.find?_of_meets hmeets hresolved hrelated hproject
    exact .inl (m.declared_of_found hc hproject)

/-- **What a declaration extends is imported** under the name that it uses. -/
theorem baseType_mem_localNames (hd : m.blockNames.Nodup) {b : Block}
    (hb : b ∈ m.document.blocks) (hbase : b.baseType ≠ "") :
    b.baseType ∈ m.imports.localNames := by
  obtain ⟨e, he, hdeclared⟩ := forall₂_exists_left (mapM_ok_iff.mp m.blocks_ok) hb
  have hlocal := (View.declared_ok_iff.mp hdeclared).2.2.1
  cases hx : e.1.base with
  | none =>
    rw [hx] at hlocal
    exact absurd hlocal hbase
  | some x =>
    rw [hx] at hlocal
    replace hlocal : b.baseType = x.localName := hlocal
    have hentry := m.find?_hostType hd (m.mem_extensions.mpr ⟨e, he, hx⟩)
    refine List.mem_map.mpr ⟨_, Imports.mem_arranged.mpr hentry, ?_⟩
    rw [hlocal] at hbase ⊢
    split
    · rfl
    · next hidle =>
      by_contra hother
      exact hidle ⟨hbase, fun hsame => hother hsame.symm⟩

end Making

/-- **Whatever a document names is bound in it.** If the links of members meet
something, every type that a member names is declared, or imported without an
alias. If no two declarations have one name, every type that a declaration
extends is imported under the name that the declaration uses. -/
theorem names_are_bound {noted : Bool} {schema records : Value} {options : Options}
    {s : Settings} {text : String} (hs : options.settings = .ok s)
    (h : (buildDocument noted schema options records).text = .ok text) :
    ∃ m : Making s schema records, text = m.document.text m.layout
      ∧ (m.LinksMeet → ∀ e ∈ m.typed, ∀ p ∈ e.2, ∀ name ∈ p.2.names, m.Binds name)
      ∧ (m.blockNames.Nodup → ∀ b ∈ m.document.blocks, b.baseType ≠ "" →
          b.baseType ∈ m.imports.localNames) := by
  obtain ⟨m, rfl⟩ := (buildDocument_ok_iff hs).mp h
  refine ⟨m, rfl, fun hlinks e he p hp name hname => ?_, fun hd b hb hbase => ?_⟩
  · exact m.binds_of_mem_names hlinks he hp hname
  · exact m.baseType_mem_localNames hd hb hbase

/-- Everything in the document of a blog can be bound. -/
theorem blog_links_meet (m : Making {} Outline.blog.overview .null) :
    m.LinksMeet ∧ m.blockNames.Nodup := by
  have hchecked : (Making.viewsOf {} Outline.blog.overview .null).toOption.all (fun r =>
      (r.2.all fun v => v.fields.all fun f => f.relation.all (Link.meets {} r.1))
        && decide (r.2.map View.typeName).Nodup) = true := by
    decide +kernel
  rw [m.viewsOf_eq] at hchecked
  obtain ⟨hlinks, hnames⟩ := Bool.and_eq_true_iff.mp hchecked
  refine ⟨fun v hv f hf l hl => ?_, m.blockNames_perm.nodup_iff.mpr (of_decide_eq_true hnames)⟩
  have hrelation := List.all_eq_true.mp (List.all_eq_true.mp hlinks v hv) f hf
  rw [hl] at hrelation
  exact hrelation

/-- Whatever the document of a blog names is bound in it. -/
theorem blog_names_are_bound :
    Options.absent.settings = .ok {}
      ∧ ∃ text, (buildDocument false Outline.blog.overview .absent .null).text = .ok text
        ∧ ∃ m : Making {} Outline.blog.overview .null, text = m.document.text m.layout
          ∧ m.LinksMeet ∧ m.blockNames.Nodup
          ∧ (∀ e ∈ m.typed, ∀ p ∈ e.2, ∀ name ∈ p.2.names, m.Binds name)
          ∧ ∀ b ∈ m.document.blocks, b.baseType ≠ "" → b.baseType ∈ m.imports.localNames := by
  have hs : Options.absent.settings = .ok {} := rfl
  obtain ⟨text, htext⟩ := Outline.blog.exists_text false hs rfl
  obtain ⟨m, hm, hbound, hbase⟩ := names_are_bound hs htext
  obtain ⟨hlinks, hnames⟩ := blog_links_meet m
  exact ⟨hs, text, htext, m, hm, hlinks, hnames, hbound hlinks, hbase hnames⟩

end CollectionTypes
