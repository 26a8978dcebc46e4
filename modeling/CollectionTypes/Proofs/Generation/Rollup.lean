import CollectionTypes.Document.OfViews
import CollectionTypes.Proofs.Document.Names
import CollectionTypes.Proofs.Document.PropertyName
import CollectionTypes.Proofs.Generation.Clashes
import CollectionTypes.Proofs.Schema.Indexed

/-!
# The members of the type that lists the collections

The type that lists the collections has a member for each view, named by the view's
identifier. By default the identifier tells the name of the type: it is the words of the
identifier put together, without the mark (`View.typeName_eq_of_identifier`). For a view of
the host the mark is in front of the singular as it is in front of the name; and the singular
of a name of the project is never marked. Hence no two members have one name where no two
types have one (`rollup_members_are_distinct`).

For this a collection of the host has to be called more than the ending of a plural.
`directus_s` would be listed as `directus_`, and so would be a collection `directus_`, though
one type is called `S` and the other one has no name.
-/

namespace CollectionTypes

open Outcome

/-! ## Links -/

namespace Index

/-- **An index in which texts name** the collections and their fields, wherever links go. -/
def NamedByTexts (ix : Index) : Prop :=
  ix.All fun _ c =>
    c.name.text?.isSome = true ∧ c.fields.All fun _ f => f.name.text?.isSome = true

variable {ix : Index}

theorem Textual.namedByTexts (h : ix.Textual) : ix.NamedByTexts :=
  fun key c hc => ⟨(h key c hc).name, fun k f hf => ((h key c hc).fields k f hf).name⟩

namespace NamedByTexts

/-- Links change no names. -/
theorem resolve (h : ix.NamedByTexts) (rs : List Relation) :
    (Linking.resolve ix rs).index.NamedByTexts :=
  Linking.resolve_keeps (P := NamedByTexts)
    (fun _ _ _ hix => hix.modify fun _ hc => ⟨hc.1, hc.2.modify fun _ hf => hf⟩) h rs

/-- It can be viewed. -/
theorem exists_views (h : ix.NamedByTexts) (s : Settings) :
    ∃ views, (View.ofIndex s ix).outcome = .ok views := by
  rw [View.outcome_ofIndex]
  refine mapM_ok_of_forall fun c hc => ?_
  obtain ⟨key, hkey⟩ := Table.mem_values_iff.mp (List.mem_filter.mp hc).1
  obtain ⟨hname, hfields⟩ := h key c hkey
  refine c.exists_ofShown s hname fun f hf => ?_
  obtain ⟨k, hk⟩ := Table.mem_values_iff.mp (Collection.mem_shownFields.mp hf).1
  exact hfields k f hk

end NamedByTexts

end Index

/-! ## Views -/

namespace View

variable {s : Settings} {ix : Index} {views : List View}

/-- **The identifier tells the name of the type.** -/
theorem typeName_eq_of_identifier (hmark : s.systemPrefix = "directus_")
    (hix : ix.Keyed (.text "directus_"))
    (hends : ∀ name, .text ("directus_" ++ name) ∈ ix.keys → Naming.IsMoreThanEnding name)
    (h : (ofIndex s ix).outcome = .ok views) {v : View} (hv : v ∈ views) :
    v.typeName = Naming.pascal (Naming.unmarked "directus_" v.identifier) := by
  obtain ⟨hcollections, hshows⟩ := ofIndex_ok_iff.mp h
  have hshown := hshows v hv
  have hvalue : v.collection ∈ ix.values.filter Collection.isShown :=
    hcollections ▸ List.mem_map_of_mem hv
  obtain ⟨key, hkey⟩ := Table.mem_values_iff.mp (List.mem_filter.mp hvalue).1
  obtain ⟨hname, hmarked, -⟩ := hix key _ hkey
  rw [hshown.name, Name.value, Naming.isMarkedOf_text] at hmarked
  rw [hshown.name, Name.key_text] at hname
  have hmarked := Except.ok.inj hmarked
  rw [hshown.typeName, hshown.identifier, Collection.declaredName, ← hmarked]
  split
  · next hhost =>
    obtain ⟨name, hcalled⟩ := Naming.exists_of_isMarked hhost
    rw [hcalled] at hname ⊢
    have hmore : Naming.IsMoreThanEnding name :=
      hends name (Table.contains_iff_mem_keys.mp (Option.isSome_iff_exists.mpr ⟨_, hname ▸ hkey⟩))
    rw [hmark, Naming.unmarkedTypeName, Naming.unmarked_append, Naming.singular_marked hmore,
      Naming.unmarked_append]
    rfl
  · next hproject =>
    have hplain := Naming.not_isMarked_singular (Bool.eq_false_iff.mpr hproject)
    rw [Naming.unmarked_of_isMarked_eq_false hplain]
    rfl

/-- The names of the members are the identifiers of the views, as they are written. -/
theorem names_rollupOf (s : Settings) (views : List View) :
    (Document.rollupOf s views).members.map (fun m => Naming.member m.name)
      = (views.map identifier).map Naming.member := by
  unfold Document.rollupOf
  rw [List.map_map, List.map_map]
  rfl

end View

/-- **The members of the type that lists the collections are distinct.** By default the index
of a schema in which texts name everything can be viewed, whatever relations it is linked by,
and there is no warning exactly if all types have distinct names. If they do, and no
collection of the host is called nothing but the ending of a plural behind the mark, then so
do the members, as they are written. -/
theorem rollup_members_are_distinct {s : Settings} (hmark : s.systemPrefix = "directus_")
    {flags : Flags} {schema : Value} (hnames : schema.NamedByTexts) {ix : Index}
    (hix : (Index.ofSchema (.text "directus_") flags schema).outcome = .ok ix)
    (hends : ∀ name, .text ("directus_" ++ name) ∈ ix.keys →
      Text.lowercase name ≠ "s" ∧ Text.lowercase name ≠ "ies") (rs : List Relation) :
    ∃ views, (View.ofIndex s (Linking.resolve ix rs).index).outcome = .ok views
      ∧ ((View.ofIndex s (Linking.resolve ix rs).index).warnings = []
          ↔ (views.map View.typeName).Nodup)
      ∧ ((views.map View.typeName).Nodup →
          ((Document.rollupOf s (View.arranged views)).members.map
            fun m => Naming.member m.name).Nodup) := by
  have hkeyed := (Index.keyed_ofSchema hix).resolve rs
  have htexts := (Index.textual_ofSchema hnames hix).namedByTexts.resolve rs
  obtain ⟨views, hviews⟩ := htexts.exists_views s
  refine ⟨views, hviews, ?_, fun htypes => ?_⟩
  · rw [View.warnings_eq_collisions hviews]
    exact View.collisions_eq_nil_iff (View.nodup_names hkeyed.nodup_names hviews)
  · have htold : views.map View.typeName = (views.map View.identifier).map
        fun identifier => Naming.pascal (Naming.unmarked "directus_" identifier) := by
      rw [List.map_map]
      refine List.map_congr_left fun v hv => ?_
      refine View.typeName_eq_of_identifier hmark hkeyed (fun name hname => ?_) hviews hv
      exact hends name (Linking.keys_resolve ix rs ▸ hname)
    rw [htold] at htypes
    have hidentifiers : (views.map View.identifier).Nodup := .of_map _ htypes
    have hperm : ((View.arranged views).map View.identifier).Perm (views.map View.identifier) :=
      (List.mergeSort_perm views _).map _
    rw [View.names_rollupOf]
    exact (hperm.nodup_iff.mpr hidentifiers).map Naming.member_injective

/-- Stories with a teller, a book club's things, and the host's users with a nickname. -/
def Value.readers : Value := .object
  [("collections", .list [
      .object [("collection", .text "stories"), ("fields", .list
        [.object [("field", .text "teller")]])],
      .object [("collection", .text "book-club's")],
      .object [("collection", .text "directus_users"), ("fields", .list
        [.object [("field", .text "nickname"), ("meta", .object [])]])]])]

/-- The teller of a story is one of the users. -/
def Relation.teller : Relation :=
  ⟨.text "teller", .text "stories", some ⟨.text "directus_users", .null, .text "stories",
    .text "teller"⟩, .text "directus_users", .null⟩

/-- The three collections of the readers are listed under three names. -/
theorem readers_are_distinct :
    ({} : Settings).systemPrefix = "directus_" ∧ Value.readers.NamedByTexts
      ∧ ∃ ix, (Index.ofSchema (.text "directus_") Table.empty Value.readers).outcome = .ok ix
        ∧ (∀ name, .text ("directus_" ++ name) ∈ ix.keys →
            Text.lowercase name ≠ "s" ∧ Text.lowercase name ≠ "ies")
        ∧ ∃ views,
          (View.ofIndex {} (Linking.resolve ix [Relation.teller]).index).outcome = .ok views
            ∧ views.map View.typeName = ["Story", "BookClub'", "User"]
            ∧ ((Document.rollupOf {} (View.arranged views)).members.map
                fun m => Naming.member m.name).Nodup := by
  have hnames : Value.readers.NamedByTexts := by decide +kernel
  have hchecked : (Index.ofSchema (.text "directus_") Table.empty
      Value.readers).outcome.toOption.any (fun ix =>
        decide (ix.keys = [.text "stories", .text "book-club's", .text "directus_users"])
          && (View.ofIndex {} (Linking.resolve ix [Relation.teller]).index).outcome.toOption.any
            fun views => decide (views.map View.typeName = ["Story", "BookClub'", "User"]))
      = true := by
    decide +kernel
  obtain ⟨ix, hix, hchecked⟩ := (Option.any_eq_true _ _).mp hchecked
  obtain ⟨hkeys, hchecked⟩ := Bool.and_eq_true_iff.mp hchecked
  obtain ⟨shown, hshown, htypes⟩ := (Option.any_eq_true _ _).mp hchecked
  have hindex := toOption_eq_some_iff.mp hix
  have hends : ∀ name, .text ("directus_" ++ name) ∈ ix.keys →
      Text.lowercase name ≠ "s" ∧ Text.lowercase name ≠ "ies" := by
    have hmore : ∀ called ∈ ["stories", "book-club's", "directus_users"],
        Naming.IsMoreThanEnding (Naming.unmarked "directus_" called) := by
      decide +kernel
    intro name hname
    rw [of_decide_eq_true hkeys] at hname
    have hname := hmore ("directus_" ++ name) (by simpa using hname)
    rwa [Naming.unmarked_append] at hname
  obtain ⟨views, hviews, -, hdistinct⟩ :=
    rollup_members_are_distinct (s := {}) rfl hnames hindex hends [Relation.teller]
  obtain rfl : shown = views :=
    Except.ok.inj ((toOption_eq_some_iff.mp hshown).symm.trans hviews)
  have htypes := of_decide_eq_true htypes
  refine ⟨rfl, hnames, ix, hindex, hends, shown, hviews, htypes, hdistinct ?_⟩
  rw [htypes]
  decide

end CollectionTypes
