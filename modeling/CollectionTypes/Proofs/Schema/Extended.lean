import CollectionTypes.Generation
import CollectionTypes.Proofs.Schema.Indexing
import CollectionTypes.Proofs.Schema.LastLink

/-!
# A schema with one more entry

A schema may be extended by an entry of a name that is new to it: no collection
is indexed under the name, no detached field belongs to it, and no relation has
it on a side (`FreshName`). Whatever is indexed under another name is the same
with the entry and without (`Run.index_without`), and so are its links
(`Linking.resolve_without`). The entry can only do harm: where the schema with
the entry is indexed and linked, so is the one without.
-/

namespace CollectionTypes

open Outcome

/-- **A schema with one more entry** among its collections, which is called
that. -/
structure Value.WithEntry (schema schema' : Value) (name : String) : Prop where
  entries : ∃ before after entry, entriesOf schema = before ++ after
    ∧ entriesOf schema' = before ++ .object entry :: after
    ∧ Value.get entry "collection" = .text name
  fields : schema'.part "fields" = schema.part "fields"
  relations : schema'.part "relations" = schema.part "relations"

/-- **A name is new to a schema.** -/
structure FreshName (s : Settings) (schema records : Value) (name : String) : Prop where
  indexed : ∀ ix, (Run.index s schema records).outcome = .ok ix → ix.find? (.text name) = none
  owned : ∀ r ∈ rawFields schema, Value.get r.members "collection" ≠ .text name
  related : ∀ rs, Relation.ofSchema schema = .ok rs → ∀ r ∈ rs, ∀ sides, r.sides = some sides →
    sides.oneCollection ≠ .text name ∧ sides.manyCollection ≠ .text name

/-- **Two indexes agree but for one name.** -/
def Index.AgreeBut (name : String) (ix ix' : Index) : Prop :=
  ∀ k, k ≠ .text name → ix.find? k = ix'.find? k

/-! ## Names that mean a text -/

namespace Name

/-- Only a text means a text. -/
theorem eq_text_of_ofPresent {v : Value} {n : Name} {name : String}
    (h : ofPresent v = .ok (some n)) (hkey : n.key = .text name) : v = .text name := by
  have hvalue : ofValue? v = some n := by
    unfold ofPresent ofValue at h
    split at h
    · obtain ⟨n', hn', hsame⟩ := map_ok_iff.mp h
      split at hn'
      · next m hm =>
        rw [hm, Except.ok.inj hn', Option.some.inj hsame]
      · cases hn'
    · cases h
  cases v with
  | text t =>
    cases hvalue
    rw [Key.text.inj hkey]
  | bool b => cases hvalue; cases hkey
  | int i => cases hvalue; cases hkey
  | real x => cases hvalue; cases x <;> cases hkey
  | null => cases hvalue
  | list vs => cases hvalue
  | object ms => cases hvalue

end Name

/-! ## Indexing -/

/-- Detached fields of a collection make it known by its name. -/
theorem find?_gathered_of_fresh {raw : List RawField} {name : String}
    (h : ∀ r ∈ raw, Value.get r.members "collection" ≠ .text name) :
    (gathered raw).find? (.text name) = none := by
  have hnone : ((raw.filterMap fun r => given r.owned?).filter fun p => p.1.key = .text name)
      = [] := by
    refine List.filter_eq_nil_iff.mpr fun p hp hkey => ?_
    obtain ⟨r, hr, hp⟩ := List.mem_filterMap.mp hp
    obtain ⟨owner?, howner, hsome⟩ := map_ok_iff.mp (given_eq_some_iff.mp hp)
    obtain ⟨owner, rfl, rfl⟩ := Option.map_eq_some_iff.mp hsome
    exact h r hr (Name.eq_text_of_ofPresent howner (of_decide_eq_true hkey))
  unfold gathered
  rw [find?_foldl_detach, hnone]
  rfl

/-- What an entry lists is called what the entry says. -/
theorem Listing.get_of_name? {entry : List (String × Value)} {v : Value}
    (h : (ofValue (.object entry)).name? = some v) : Value.get entry "collection" = v := by
  unfold ofValue at h
  simp only [Value.members?] at h
  split at h
  · cases h
  · split at h
    · cases h
    · exact Option.some.inj h

namespace Index

variable {mark : Value} {flags : Flags} {name : String}

/-- An entry that gives a text lists a collection under it. -/
theorem name_of_listed?_object {detached : Table Key Detached} {entry : List (String × Value)}
    (hentry : Value.get entry "collection" = .text name) {c : Collection}
    (h : listed? mark flags detached (.object entry) = .ok (some c)) : c.name = .text name := by
  obtain ⟨v, hv, hname⟩ := name_of_listed? h
  rw [Listing.get_of_name? hv] at hentry
  rw [hentry] at hname
  exact (Except.ok.inj hname).symm

/-- Collections of one name do not show under another. -/
theorem find?_foldl_place_without {cs extra cs' : List Collection}
    (hextra : ∀ c ∈ extra, c.name = .text name) :
    AgreeBut name ((cs ++ cs').foldl place Table.empty)
      ((cs ++ (extra ++ cs')).foldl place Table.empty) := by
  intro k hk
  have hnone : Table.lastOf k (extra.map fun c => (c.name.key, c)) = none := by
    refine Table.lastOf_eq_none fun hmem => hk ?_
    obtain ⟨e, he, rfl⟩ := List.mem_map.mp hmem
    obtain ⟨c, hc, rfl⟩ := List.mem_map.mp he
    exact congrArg Name.key (hextra c hc)
  rw [find?_foldl_place, find?_foldl_place]
  simp only [List.map_append, Table.lastOf_append, hnone, Option.or_none]

theorem unlisted?_agreeBut {listed listed' : Index} (h : AgreeBut name listed listed')
    {d : Detached} (hd : d.owner.key ≠ .text name) :
    unlisted? mark flags listed d = unlisted? mark flags listed' d := by
  unfold unlisted? Table.contains
  rw [h _ hd]

/-- **Without the entry the schema is indexed as well**, and alike but for the
name of the entry. -/
theorem Stages.without {schema schema' : Value} {detached : Table Key Detached}
    {listed' ix' : Index} (h : schema.WithEntry schema' name)
    (howned : ∀ r ∈ rawFields schema, Value.get r.members "collection" ≠ .text name)
    (hix : Stages mark flags schema' detached listed' ix') :
    ∃ listed ix, Stages mark flags schema detached listed ix ∧ AgreeBut name ix ix' := by
  obtain ⟨before, after, entry, hentries, hentries', hname⟩ := h.entries
  obtain ⟨hraw, hdetached, hlisted, hlisted_eq, hunlisted, rfl⟩ := hix
  have hfields : rawFields schema' = rawFields schema := by
    unfold rawFields
    rw [h.fields]
  rw [hfields] at hraw hdetached
  rw [hentries'] at hlisted hlisted_eq
  have hagree : AgreeBut name (listedFrom mark flags detached (entriesOf schema)) listed' := by
    rw [← hlisted_eq, hentries]
    unfold listedFrom
    rw [List.filterMap_append, List.filterMap_append, ← List.singleton_append,
      List.filterMap_append]
    refine find?_foldl_place_without fun c hc => ?_
    obtain ⟨v, hv, hc⟩ := List.mem_filterMap.mp hc
    rw [List.mem_singleton.mp hv] at hc
    exact name_of_listed?_object hname (given_eq_some_iff.mp hc)
  -- what is detached is not called that
  have howner : ∀ d ∈ detached.values, d.owner.key ≠ .text name := by
    intro d hd hkey
    obtain ⟨k, hk⟩ := Table.mem_values_iff.mp hd
    have hnone := find?_gathered_of_fresh howned
    have hunder : (gathered (rawFields schema)).All fun k d => d.owner.key = k :=
      foldl_detach_owned _ Table.All.empty
    rw [hdetached] at hnone hunder
    rw [← hunder k d hk, hkey, hnone] at hk
    cases hk
  have hsame : ∀ d ∈ detached.values, unlisted? mark flags (listedFrom mark flags detached
      (entriesOf schema)) d = unlisted? mark flags listed' d :=
    fun d hd => unlisted?_agreeBut hagree (howner d hd)
  refine ⟨_, _, ⟨hraw, hdetached, ?_, rfl, ?_, rfl⟩, fun k hk => ?_⟩
  · rw [hentries]
    intro v hv
    refine hlisted v ?_
    rcases List.mem_append.mp hv with hv | hv
    · exact List.mem_append_left _ hv
    · exact List.mem_append_right _ (List.mem_cons_of_mem _ hv)
  · intro d hd
    rw [hsame d hd]
    exact hunlisted d hd
  · unfold withUnlisted
    rw [find?_foldl_place, find?_foldl_place, hagree k hk,
      List.filterMap_congr fun d hd => congrArg given (hsame d hd)]

end Index

variable {s : Settings} {schema schema' records : Value} {name : String}

theorem Run.index_without (h : schema.WithEntry schema' name)
    (hfresh : FreshName s schema records name) {ix' : Index}
    (hix : (index s schema' records).outcome = .ok ix') :
    ∃ ix, (index s schema records).outcome = .ok ix ∧ Index.AgreeBut name ix ix' := by
  obtain ⟨flags, hflags, hix⟩ := index_ok_iff.mp hix
  obtain ⟨detached, listed', hstages⟩ := Index.ofSchema_ok_iff.mp hix
  obtain ⟨listed, ix, hstages', hagree⟩ := hstages.without h hfresh.owned
  refine ⟨ix, index_ok_iff.mpr ⟨flags, hflags, ?_⟩, hagree⟩
  exact Index.ofSchema_ok_iff.mpr ⟨detached, listed, hstages'⟩

/-! ## Linking -/

/-- The relations are the same with the entry. -/
theorem Value.WithEntry.ofSchema_eq (h : schema.WithEntry schema' name) :
    Relation.ofSchema schema' = Relation.ofSchema schema := by
  rw [Relation.ofSchema_eq_part, Relation.ofSchema_eq_part, h.relations]

namespace Linking

/-- **Without the entry relations link alike**, but for the name of the
entry. -/
theorem resolve_without {ix ix' : Index} (hagree : Index.AgreeBut name ix ix')
    {rs : List Relation} (hrelated : ∀ r ∈ rs, ∀ sides, r.sides = some sides →
      sides.oneCollection ≠ .text name ∧ sides.manyCollection ≠ .text name)
    (hfault : (resolve ix' rs).fault = none) :
    (resolve ix rs).fault = none
      ∧ Index.AgreeBut name (resolve ix rs).index (resolve ix' rs).index := by
  have hagreeOn : ∀ v : Value, v ≠ .text name → ix.AgreeOn ix' v := by
    intro v hv n hn
    unfold Index.frame
    rw [hagree n.key fun hkey => hv (Name.eq_text_of_ofPresent hn hkey)]
  have hlinksOf : ∀ r ∈ rs, linksOf ix r = linksOf ix' r := fun r hr =>
    linksOf_congr fun sides hsides => (hrelated r hr sides hsides).imp (hagreeOn _) (hagreeOn _)
  have hfault' : (resolve ix rs).fault = none := by
    rw [fault_resolve_iff] at hfault ⊢
    exact fun r hr => hlinksOf r hr ▸ hfault r hr
  refine ⟨hfault', fun k hk => ?_⟩
  have hlinks : rs.flatMap (Relation.linksOn ix) = rs.flatMap (Relation.linksOn ix') := by
    refine List.flatMap_congr fun r hr => ?_
    unfold Relation.linksOn
    rw [hlinksOf r hr]
  rw [index_resolve hfault, index_resolve hfault', Index.find?_linked, Index.find?_linked,
    hagree k hk, hlinks]

end Linking

end CollectionTypes
