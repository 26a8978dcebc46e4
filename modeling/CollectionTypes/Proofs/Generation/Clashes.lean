import CollectionTypes.Proofs.Document.Collisions
import CollectionTypes.Proofs.Document.Textual
import CollectionTypes.Proofs.Generation.Warned

/-!
# Which collections are complained about

Viewing an index complains of every collection that is shown and whose type belongs
to one before it, of the first of these as its owner, and of nothing else. It makes
no difference whether a type is the project's or extends one of the host's: what
counts is the name of the type (`Collection.title`). The complaints stand in the order of
the index, and there are as many as there are views beyond the distinct names of types
(`collision_warnings_are_exact`).
-/

namespace CollectionTypes

open Outcome

namespace Traced

variable {ε α β : Type}

/-- **What is warned of**, oldest warning first. -/
def warnings (x : Traced ε α) : List String :=
  (x.journal.filter fun e => e.level = .warning).map Entry.text

theorem Quiet.warnings_eq {x : Traced ε α} (hx : x.Quiet) : x.warnings = [] := by
  refine List.map_eq_nil_iff.mpr (List.filter_eq_nil_iff.mpr fun e he => ?_)
  rw [decide_eq_true_iff]
  exact hx e he

theorem warnings_bind_of_ok {x : Traced ε α} {a : α} (h : x.outcome = .ok a)
    (f : α → Traced ε β) : (x >>= f).warnings = x.warnings ++ (f a).warnings := by
  unfold warnings
  rw [journal_bind_ok h, List.filter_append, List.map_append]

theorem warnings_notes (texts : List String) :
    (notes (texts.map fun text => ⟨.warning, text⟩) : Traced ε Unit).warnings = texts := by
  unfold warnings notes
  rw [List.filter_map, List.map_map]
  exact (List.map_id _).trans (List.filter_eq_self.mpr fun _ _ => rfl)

end Traced

/-- **An index of collections under their own names**, which are texts. -/
def Index.Named (ix : Index) : Prop :=
  ix.All fun key c => ∃ name, c.name = .text name ∧ key = .text name

/-- **The title of a collection**: its name, and that of the type that it is shown as. -/
def Collection.title (s : Settings) (c : Collection) : Title :=
  ⟨c.name.shownText, c.declaredName s c.name.shownText⟩

/-- The titles of the collections that are shown, in the order of the index. -/
def Index.titles (s : Settings) (ix : Index) : List Title :=
  (ix.values.filter Collection.isShown).map (Collection.title s)

namespace Index.Named

variable {ix : Index}

/-- In such an index no two collections have one name. -/
theorem nodup_names (hix : ix.Named) : (ix.values.map Collection.name).Nodup := by
  have hkeys : (ix.values.map fun c => c.name.key) = ix.keys := by
    refine Table.All.map_values fun key c hc => ?_
    obtain ⟨name, hname, rfl⟩ := hix key c hc
    rw [hname, Name.key_text]
  have hnodup : ((ix.values.map Collection.name).map Name.key).Nodup := by
    rw [List.map_map]
    exact hkeys ▸ ix.keys_nodup
  exact List.Nodup.of_map Name.key hnodup

/-- It can be viewed if the fields that are shown are named by texts. -/
theorem exists_views (hix : ix.Named) (s : Settings)
    (hfields : ∀ c ∈ ix.values, c.isShown = true → ∀ f ∈ c.shownFields,
      f.name.text?.isSome = true) :
    ∃ views, (View.ofIndex s ix).outcome = .ok views := by
  rw [View.outcome_ofIndex]
  refine mapM_ok_of_forall fun c hc => ?_
  obtain ⟨hvalue, hshown⟩ := List.mem_filter.mp hc
  obtain ⟨key, hkey⟩ := Table.mem_values_iff.mp hvalue
  obtain ⟨name, hname, -⟩ := hix key c hkey
  exact c.exists_ofShown s (hname ▸ rfl) (hfields c hvalue hshown)

end Index.Named

namespace View

variable {s : Settings} {ix : Index} {views : List View}

/-- **The titles of views** are those of the collections that are shown. -/
theorem map_title (h : (ofIndex s ix).outcome = .ok views) :
    views.map title = ix.titles s := by
  obtain ⟨hcollections, hshows⟩ := ofIndex_ok_iff.mp h
  unfold Index.titles
  rw [← hcollections, List.map_map]
  refine List.map_congr_left fun v hv => ?_
  have hname : v.collection.name.shownText = v.name := by
    rw [(hshows v hv).name]
    rfl
  show Title.mk v.name v.typeName = Title.mk _ _
  rw [hname, (hshows v hv).typeName]

/-- Viewing warns of the collisions of the views. -/
theorem warnings_eq_collisions (h : (ofIndex s ix).outcome = .ok views) :
    (ofIndex s ix).warnings = collisions views := by
  have hviews : (ofCollections s ix.values).outcome = .ok views := by
    rw [outcome_ofCollections, ← outcome_ofIndex]
    exact h
  unfold ofIndex
  rw [Traced.warnings_bind_of_ok hviews, (quiet_ofCollections s _).warnings_eq,
    Traced.warnings_bind_of_ok rfl, Traced.warnings_notes, (Traced.quiet_pure views).warnings_eq]
  exact List.append_nil _

/-- **Viewing warns of the clashes** of the titles that are shown. -/
theorem warnings_ofIndex (hix : ix.Named) (h : (ofIndex s ix).outcome = .ok views) :
    (ofIndex s ix).warnings = Title.clashes (ix.titles s) := by
  rw [warnings_eq_collisions h, collisions_eq_clashes (nodup_names hix.nodup_names h), map_title h]

end View

/-- **The warnings about collections are exact.** An index of collections under their own
names can be viewed if texts name the fields that are shown. Then there is a view for each
collection that is shown, and a warning for each of them whose type belongs to one before
it, which names the first of these as the owner, in the order of the index, and no other. There are as
many warnings as there are views beyond the distinct names of types, and none exactly if
all these names are distinct. -/
theorem collision_warnings_are_exact (s : Settings) {ix : Index} (hix : ix.Named) :
    ((∀ c ∈ ix.values, c.isShown = true → ∀ f ∈ c.shownFields, f.name.text?.isSome = true) →
        ∃ views, (View.ofIndex s ix).outcome = .ok views)
      ∧ ∀ views, (View.ofIndex s ix).outcome = .ok views →
        views.map View.title = ix.titles s
          ∧ (View.ofIndex s ix).warnings = Title.clashes (ix.titles s)
          ∧ (View.ofIndex s ix).warnings.length + (views.map View.typeName).toFinset.card
            = views.length
          ∧ ((View.ofIndex s ix).warnings = [] ↔ (views.map View.typeName).Nodup) := by
  refine ⟨hix.exists_views s, fun views h => ?_⟩
  have htypes : (ix.titles s).map Title.typeName = views.map View.typeName := by
    rw [← View.map_title h, List.map_map]
    rfl
  have hlength : (ix.titles s).length = views.length := by
    rw [← View.map_title h, List.length_map]
  rw [View.warnings_ofIndex hix h, ← htypes, ← hlength]
  exact ⟨View.map_title h, rfl, Title.length_clashes_add_card _, Title.clashes_eq_nil_iff⟩

/-- Two collections of articles, the host's users with a field of the project, and the
project's user. -/
def namesakes : Index where
  entries := [(.text "article", { name := .text "article" }),
    (.text "articles", { name := .text "articles" }),
    (.text "directus_users", {
      name := .text "directus_users"
      isSystem := true
      fields := { entries := [(.text "nickname", { name := .text "nickname", type := .string })] } }),
    (.text "user", { name := .text "user" })]
  distinct := by decide

/-- Of the namesakes two are complained about. -/
theorem namesakes_are_told :
    namesakes.Named ∧ ∃ views, (View.ofIndex {} namesakes).outcome = .ok views
      ∧ views.length = 4
      ∧ (View.ofIndex {} namesakes).warnings
        = ["Collections article and articles both generate type Article",
          "Collections directus_users and user both generate type User"] := by
  have hix : namesakes.Named := by
    intro key c hc
    have hmem := Table.find?_eq_some_iff.mp hc
    simp only [namesakes, List.mem_cons, List.not_mem_nil, or_false, Prod.mk.injEq] at hmem
    rcases hmem with ⟨rfl, rfl⟩ | ⟨rfl, rfl⟩ | ⟨rfl, rfl⟩ | ⟨rfl, rfl⟩ <;> exact ⟨_, rfl, rfl⟩
  obtain ⟨hexists, hexact⟩ := collision_warnings_are_exact {} hix
  obtain ⟨views, hviews⟩ := hexists (by decide +kernel)
  have hclashes : Title.clashes (namesakes.titles {})
      = ["Collections article and articles both generate type Article",
        "Collections directus_users and user both generate type User"] := by
    decide +kernel
  have hlength : views.length = 4 := by
    rw [← List.length_map (f := View.title), View.map_title hviews]
    decide +kernel
  exact ⟨hix, views, hviews, hlength, (hexact views hviews).2.1.trans hclashes⟩

end CollectionTypes
