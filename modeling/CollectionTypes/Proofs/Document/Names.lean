import CollectionTypes.Proofs.Document.Shown
import CollectionTypes.Proofs.Text.Capitals
import CollectionTypes.Proofs.Text.Singulars

/-!
# The names that views go by

A view goes by the singular of its collection's name, and by the name of its type. The
singular is settled: taking it once more changes nothing. So it makes no difference to what a
collection of the project goes by if it is itself named in the singular
(`singular_is_settled`).

A collection of the host is marked, and its type is named without the mark. The local alias
of the host's own type keeps the mark, and by default it is the name of the type with the
mark's word in front, unless the rest of the name is nothing but the ending of a plural
(`host_types_have_aliases`).
-/

namespace CollectionTypes

namespace Naming

/-! ## Singulars -/

theorem singular_singular (name : String) : singular (singular name) = singular name := by
  rw [← String.toList_inj, toList_singular, toList_singular]
  exact singularChars_eq_self_iff.mpr (not_isPlural_singularChars name.toList)

/-- **The names that are their own singular**, told by their lower-case form. -/
theorem singular_eq_self_iff {name : String} :
    singular name = name
      ↔ ¬ HasEnding ["s"] name ∨ HasEnding ["ss", "us", "is"] name ∨ name.length ≤ 1 := by
  have hplural : IsPlural name.toList
      ↔ HasEnding ["s"] name ∧ ¬ HasEnding ["ss", "us", "is"] name ∧ ¬ name.length ≤ 1 := by
    rw [← endsIn_toList_iff (by decide), ← endsIn_toList_iff (by decide), Bool.not_eq_true,
      ← String.length_toList, Nat.not_le]
    exact ⟨fun h => ⟨h.ends, h.changes, h.long⟩, fun h => ⟨h.1, h.2.1, h.2.2⟩⟩
  rw [← String.toList_inj, toList_singular, singularChars_eq_self_iff, hplural]
  tauto

theorem singular_eq_empty_iff {name : String} : singular name = "" ↔ name = "" := by
  rw [← String.toList_eq_nil_iff, ← String.toList_eq_nil_iff, toList_singular]
  exact (undoes_singularChars name.toList).eq_nil_iff

/-- **What the singular has of a name.** -/
theorem exists_singular_parts (name : String) : ∃ front ending added : String,
    name = front ++ ending ∧ ending.length ≤ 3 ∧ singular name = front ++ added
      ∧ (added = "" ∨ added = "y" ∨ added = "Y") := by
  obtain ⟨front, ending, added, hname, hlength, hsingular, hadded⟩ :=
    (undoes_singularChars name.toList).exists_parts
  refine ⟨.ofList front, .ofList ending, .ofList added, ?_, ?_, ?_, ?_⟩
  · rw [← String.ofList_append, ← hname, String.ofList_toList]
  · rwa [String.length_ofList]
  · rw [← String.ofList_append, ← hsingular]
    rfl
  · rcases hadded with rfl | rfl | rfl
    · exact .inl rfl
    · exact .inr (.inl rfl)
    · exact .inr (.inr rfl)

/-! ## Marked names -/

theorem unmarked_append (mark name : String) : unmarked mark (mark ++ name) = name := by
  have hprefix : mark.toList.isPrefixOf (mark ++ name).toList = true := by
    rw [String.toList_append, List.isPrefixOf_iff_prefix]
    exact List.prefix_append _ _
  unfold unmarked
  rw [if_pos hprefix, String.toList_append, List.drop_left, String.ofList_toList]

theorem exists_of_isMarked {mark name : String} (h : isMarked mark name = true) :
    ∃ rest, name = mark ++ rest := by
  obtain ⟨rest, hrest⟩ := List.isPrefixOf_iff_prefix.mp (Bool.and_eq_true_iff.mp h).2
  refine ⟨.ofList rest, ?_⟩
  rw [← String.toList_inj, String.toList_append, String.toList_ofList, hrest]

/-- **A name that is more than the ending of a plural.** -/
def IsMoreThanEnding (name : String) : Prop :=
  Text.lowercase name ≠ "s" ∧ Text.lowercase name ≠ "ies"

instance : DecidablePred IsMoreThanEnding := fun _ =>
  inferInstanceAs (Decidable (_ ∧ _))

theorem lowercase_eq_iff {name e : String} (he : Text.IsEnding e.toList) :
    Text.lowercase name = e ↔ name.toList.map Char.toLower = e.toList := by
  rw [← String.toList_inj, Text.lowercase, String.toList_ofList]
  exact Text.lowerAll_eq_iff he

theorem toList_marked (name : String) :
    ("directus_" ++ name).toList = "directus".toList ++ '_' :: name.toList := by
  rw [String.toList_append, List.append_cons]
  rfl

/-- **The singular of a name of the host** is the marked singular. -/
theorem singular_marked {name : String} (h : IsMoreThanEnding name) :
    singular ("directus_" ++ name) = "directus_" ++ singular name := by
  have hs : name.toList.map Char.toLower ≠ "s".toList := fun heq =>
    h.1 ((lowercase_eq_iff (by decide)).mpr heq)
  have hies : name.toList.map Char.toLower ≠ "ies".toList := fun heq =>
    h.2 ((lowercase_eq_iff (by decide)).mpr heq)
  rw [← String.toList_inj, toList_singular, toList_marked, toList_marked, toList_singular]
  exact singularChars_append (by decide) hs hies

/-- The singular of a name of the project is not marked. -/
theorem not_isMarked_singular {name : String} (h : isMarked "directus_" name = false) :
    isMarked "directus_" (singular name) = false := by
  refine Bool.eq_false_iff.mpr fun hsingular => Bool.eq_false_iff.mp h ?_
  obtain ⟨hne, hprefix⟩ := Bool.and_eq_true_iff.mp hsingular
  rw [List.isPrefixOf_iff_prefix, toList_singular] at hprefix
  refine Bool.and_eq_true_iff.mpr ⟨hne, List.isPrefixOf_iff_prefix.mpr ?_⟩
  have hmark : "directus_".toList = "directus".toList ++ ['_'] := rfl
  rw [hmark] at hprefix ⊢
  exact isPrefix_of_singularChars (by decide) hprefix

/-- The alias of a host's type keeps the mark as a word of its own. -/
theorem aliasName_marked {name : String} (h : IsMoreThanEnding name) :
    aliasName ("directus_" ++ name) = "Directus" ++ typeName name := by
  have hmark : pascalFrom true "directus".toList = "Directus".toList := by decide +kernel
  unfold aliasName typeName
  rw [singular_marked h, ← String.toList_inj, toList_pascal, toList_marked,
    pascalFrom_append_separator (by decide), hmark, String.toList_append, toList_pascal]

theorem eq_or_of_toLower {c d : Char} (hd : d.isAlpha = true) (h : c.toLower = d) :
    c = d ∨ c = d.toUpper := by
  subst h
  have hplain : inPlainName c = true := inPlainName_of_isAlphanum (by
    rw [Char.isAlphanum, isAlpha_of_toLower hd]
    rfl)
  exact forall_inPlainName (P := fun c => c = c.toLower ∨ c = c.toLower.toUpper)
    (by decide +kernel) hplain

/-- The endings of plurals in all spellings. -/
def bareEndings : List String :=
  ["s", "S", "ies", "ieS", "iEs", "iES", "Ies", "IeS", "IEs", "IES"]

theorem mem_bareEndings {name : String} (h : ¬ IsMoreThanEnding name) : name ∈ bareEndings := by
  rw [← String.ofList_toList (s := name)]
  unfold IsMoreThanEnding at h
  rw [not_and_or, not_not, not_not, lowercase_eq_iff (by decide), lowercase_eq_iff (by decide)] at h
  rcases h with h | h
  · obtain ⟨c, hc, hs⟩ := List.map_eq_singleton_iff.mp h
    rw [hc]
    rcases eq_or_of_toLower (by decide) hs with rfl | rfl <;> decide
  · obtain ⟨c, cs, hcs, hi, h⟩ := List.map_eq_cons_iff.mp h
    obtain ⟨d, ds, rfl, he, h⟩ := List.map_eq_cons_iff.mp h
    obtain ⟨f, rfl, hs⟩ := List.map_eq_singleton_iff.mp h
    rw [hcs]
    rcases eq_or_of_toLower (by decide) hi with rfl | rfl <;>
      rcases eq_or_of_toLower (by decide) he with rfl | rfl <;>
        rcases eq_or_of_toLower (by decide) hs with rfl | rfl <;> decide

/-- Of a bare ending the type has another name than the alias tells. -/
theorem aliasName_of_bareEnding : ∀ name ∈ bareEndings,
    aliasName ("directus_" ++ name) ≠ "Directus" ++ typeName name
      ∧ aliasName ("directus_" ++ name) ≠ typeName name := by
  decide +kernel

/-- **The alias of a host's type** is its name with the word of the mark in front, exactly if
the name of the collection is more than the ending of a plural. -/
theorem aliasName_eq_iff {name : String} :
    aliasName ("directus_" ++ name) = "Directus" ++ typeName name ↔ IsMoreThanEnding name :=
  ⟨fun h => not_not.mp fun hbare => (aliasName_of_bareEnding name (mem_bareEndings hbare)).1 h,
    aliasName_marked⟩

/-- The alias is another name than that of the type. -/
theorem aliasName_ne_typeName (name : String) :
    aliasName ("directus_" ++ name) ≠ typeName name := by
  by_cases h : IsMoreThanEnding name
  · intro heq
    have hlength := congrArg String.length ((aliasName_marked h).symm.trans heq)
    rw [String.length_append] at hlength
    exact absurd hlength (Nat.ne_of_gt (Nat.lt_add_of_pos_left (by decide)))
  · exact (aliasName_of_bareEnding name (mem_bareEndings h)).2

end Naming

/-! ## Views -/

namespace View

/-- **A view of a collection of the project** called that. -/
def IsOfProject (name : String) (v : View) : Prop :=
  ∃ s c, c.isSystem = false ∧ c.name = .text name ∧ (ofCollection? s c).outcome = .ok (some v)

/-- **A view of a collection of the host** called that, by the mark that the host's
collections have by default. -/
def IsOfHost (name : String) (v : View) : Prop :=
  ∃ s c, s.systemPrefix = "directus_" ∧ c.isSystem = true ∧ c.name = .text name
    ∧ (ofCollection? s c).outcome = .ok (some v)

variable {name : String} {v : View}

/-- A view is made of a collection that is shown, and shows it. -/
theorem ofCollection?_ok_some_iff {s : Settings} {c : Collection} :
    (ofCollection? s c).outcome = .ok (some v) ↔ c.isShown = true ∧ v.Shows s c := by
  rw [outcome_ofCollection?, ← ofShown_ok_iff]
  split
  · next hshown =>
    simp [hshown, Outcome.map_ok_iff]
  · next hshown =>
    exact iff_of_false (fun h => nomatch h) fun h => hshown h.1

/-- Fields without a link keep their order. -/
theorem memberFields_of_unlinked {fs : List Field} (h : ∀ f ∈ fs, f.relation = none) :
    memberFields fs = .ok fs := by
  have hlinked : fs.filter (fun f => f.relation.isSome) = [] :=
    List.filter_eq_nil_iff.mpr fun f hf => by simp [h f hf]
  have hplain : fs.filter (fun f => f.relation.isNone) = fs :=
    List.filter_eq_self.mpr fun f hf => by simp [h f hf]
  simp [memberFields, hlinked, hplain, arrange]

theorem exists_ofCollection? (s : Settings) {c : Collection} (hshown : c.isShown = true)
    (hname : c.name = .text name) (hfields : ∀ f ∈ c.shownFields, f.relation = none) :
    ∃ v, (ofCollection? s c).outcome = .ok (some v) :=
  ⟨showing s c name c.shownFields,
    ofCollection?_ok_some_iff.mpr ⟨hshown, rfl, hname, memberFields_of_unlinked hfields⟩⟩

theorem IsOfProject.names (h : v.IsOfProject name) :
    v.identifier = Naming.singular name ∧ v.typeName = Naming.typeName name := by
  obtain ⟨s, c, hsystem, hname, h⟩ := h
  have hshows := (ofCollection?_ok_some_iff.mp h).2
  obtain rfl := Name.text.inj (hname.symm.trans hshows.name)
  refine ⟨hshows.identifier, ?_⟩
  rw [hshows.typeName, Collection.declaredName, hsystem]
  rfl

theorem IsOfHost.names (h : v.IsOfHost ("directus_" ++ name)) :
    v.typeName = Naming.typeName name
      ∧ v.base = some ⟨v.typeName, Naming.aliasName ("directus_" ++ name)⟩ := by
  obtain ⟨s, c, hmark, hsystem, hname, h⟩ := h
  have hshows := (ofCollection?_ok_some_iff.mp h).2
  have hcalled := Name.text.inj (hname.symm.trans hshows.name)
  have htype : v.typeName = Naming.unmarkedTypeName "directus_" ("directus_" ++ name) := by
    rw [hshows.typeName, Collection.declaredName, hsystem, hmark, ← hcalled]
    rfl
  refine ⟨?_, ?_⟩
  · rw [htype, Naming.unmarkedTypeName, Naming.unmarked_append]
  · rw [hshows.base, Collection.extended?, hsystem, htype, hmark, ← hcalled]
    rfl

end View

open Naming

/-- **The singular is settled.** Taking the singular once more changes nothing. A name is its
own singular exactly if its lower-case form does not end in an `s`, or ends in one that is
none of a plural, or there is nothing in front; no name is left with nothing. The
singular has a name's front and at most a `y` instead of at most three characters. So a
collection of the project goes by the same names as one that is named by its singular. -/
theorem singular_is_settled (name : String) :
    singular (singular name) = singular name
      ∧ (singular name = name
          ↔ ¬ HasEnding ["s"] name ∨ HasEnding ["ss", "us", "is"] name ∨ name.length ≤ 1)
      ∧ (singular name = "" ↔ name = "")
      ∧ (∃ front ending added : String, name = front ++ ending ∧ ending.length ≤ 3
          ∧ singular name = front ++ added ∧ (added = "" ∨ added = "y" ∨ added = "Y"))
      ∧ ∀ v w : View, v.IsOfProject name → w.IsOfProject (singular name) →
          w.identifier = v.identifier ∧ w.typeName = v.typeName := by
  refine ⟨singular_singular name, singular_eq_self_iff, singular_eq_empty_iff,
    exists_singular_parts name, fun v w hv hw => ?_⟩
  obtain ⟨hidentifier, htype⟩ := hv.names
  obtain ⟨hidentifier', htype'⟩ := hw.names
  refine ⟨?_, ?_⟩
  · rw [hidentifier', hidentifier, singular_singular]
  · rw [htype', htype, typeName, typeName, singular_singular]

/-- Stories and a story go by the same names. -/
theorem stories_go_by_one_name : ∃ v w : View, v.IsOfProject "news_STORIES"
    ∧ w.IsOfProject (singular "news_STORIES") ∧ v.typeName = "NewsSTORY"
    ∧ w.identifier = v.identifier ∧ w.typeName = v.typeName := by
  have hview : ∀ name : String, ∃ v : View, v.IsOfProject name := by
    intro name
    obtain ⟨v, hv⟩ := View.exists_ofCollection? {} (c := { name := .text name }) rfl rfl
      (List.forall_mem_nil _)
    exact ⟨v, _, _, rfl, rfl, hv⟩
  obtain ⟨v, hv⟩ := hview "news_STORIES"
  obtain ⟨w, hw⟩ := hview (singular "news_STORIES")
  have htype : typeName "news_STORIES" = "NewsSTORY" := by decide +kernel
  exact ⟨v, w, hv, hw, hv.names.2.trans htype,
    (singular_is_settled "news_STORIES").2.2.2.2 v w hv hw⟩

/-- **The alias of a host's type.** By default it is the name of the type with the word of the
mark in front, exactly if the collection's name is more than the ending of a plural behind
the mark. It is never the name of the type itself; and where it is what it should be, two
collections that have types of one name extend them under one alias. -/
theorem host_types_have_aliases (name : String) :
    (aliasName ("directus_" ++ name)
          = "Directus" ++ unmarkedTypeName "directus_" ("directus_" ++ name)
        ↔ Text.lowercase name ≠ "s" ∧ Text.lowercase name ≠ "ies")
      ∧ (∀ v : View, v.IsOfHost ("directus_" ++ name) →
          ∃ e, v.base = some e ∧ e.hostType = v.typeName ∧ e.localName ≠ v.typeName)
      ∧ ∀ other : String, IsMoreThanEnding name → IsMoreThanEnding other →
          ∀ v w : View, v.IsOfHost ("directus_" ++ name) → w.IsOfHost ("directus_" ++ other) →
            v.typeName = w.typeName → v.base = w.base := by
  refine ⟨?_, fun v hv => ?_, fun other hname hother v w hv hw htypes => ?_⟩
  · rw [unmarkedTypeName, unmarked_append]
    exact aliasName_eq_iff
  · obtain ⟨htype, hbase⟩ := hv.names
    refine ⟨_, hbase, rfl, ?_⟩
    rw [htype]
    exact aliasName_ne_typeName name
  · obtain ⟨htype, hbase⟩ := hv.names
    obtain ⟨htype', hbase'⟩ := hw.names
    rw [hbase, hbase', aliasName_marked hname, aliasName_marked hother, ← htype, ← htype', htypes]

/-- A collection of the host to which the project added a nickname. -/
def nicknamed (name : String) : Collection where
  name := .text ("directus_" ++ name)
  isSystem := true
  fields := Table.empty.insert (.text "nickname") { name := .text "nickname", type := .string }

/-- The host's users, and a collection whose type has the same name as theirs. -/
theorem namesakes_share_alias : IsMoreThanEnding "users" ∧ IsMoreThanEnding "-User"
    ∧ ∃ v w : View, v.IsOfHost ("directus_" ++ "users") ∧ w.IsOfHost ("directus_" ++ "-User")
      ∧ v.typeName = w.typeName ∧ v.base = w.base := by
  have hview : ∀ name : String, ∃ v : View, v.IsOfHost ("directus_" ++ name) := by
    intro name
    obtain ⟨v, hv⟩ := View.exists_ofCollection? {} (c := nicknamed name) rfl rfl
      fun f hf => List.mem_singleton.mp hf ▸ rfl
    exact ⟨v, _, _, rfl, rfl, rfl, hv⟩
  obtain ⟨v, hv⟩ := hview "users"
  obtain ⟨w, hw⟩ := hview "-User"
  have htype : v.typeName = w.typeName := by
    rw [hv.names.1, hw.names.1]
    decide +kernel
  have hname : IsMoreThanEnding "users" := by decide +kernel
  have hother : IsMoreThanEnding "-User" := by decide +kernel
  exact ⟨hname, hother, v, w, hv, hw, htype,
    (host_types_have_aliases "users").2.2 "-User" hname hother v w hv hw htype⟩

end CollectionTypes
