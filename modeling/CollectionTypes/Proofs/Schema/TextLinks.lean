import CollectionTypes.Proofs.Schema.Keyed
import CollectionTypes.Proofs.Schema.Outline
import CollectionTypes.Schema.Linking

/-!
# Linking what texts name

Where the names of a relation are texts or missing, linking it cannot fail,
and what it does to an index can be told without asking which fields there
are: it puts a link on the field of each side, and a link on a field that is
not there changes nothing (`RelationOutline.linkOn`).

`Linking.resolve_relations` says so for all relations of an outline. The
primary keys that the links go by are those of the index before the first
relation, since no link changes them.
-/

namespace CollectionTypes

open Outcome

/-! ## What texts name -/

namespace Name

/-- A text as a name; nothing for a text that is missing or empty. -/
def ofText? : Option String → Option Name
  | some s => if s = "" then none else some (text s)
  | none => none

theorem ofPresent_text {s : String} (h : s ≠ "") :
    ofPresent (.text s) = .ok (some (text s)) := by
  have htruthy : (Value.text s).truthy = true := bne_iff_ne.mpr h
  unfold ofPresent
  rw [if_pos htruthy]
  rfl

theorem ofPresent_ofText? (t : Option String) :
    ofPresent (.ofText? t) = .ok (ofText? t) := by
  cases t with
  | none => rfl
  | some s =>
    show ofPresent (.text s) = .ok (if s = "" then none else some (text s))
    by_cases hs : s = ""
    · rw [if_pos hs, hs]
      rfl
    · rw [if_neg hs, ofPresent_text hs]

end Name

/-- The place that texts name; nowhere if one is missing or empty. -/
def FieldPlace.ofTexts? (c f : Option String) : Option FieldPlace :=
  (Name.ofText? c).bind fun c => (Name.ofText? f).map fun f => (c.key, f.key)

namespace Index

/-- Whether there is a field at a place. -/
def has (ix : Index) (place : FieldPlace) : Bool :=
  (ix.fieldAt? place).isSome

/-- The collection that a text names. -/
def ofText? (ix : Index) (c : Option String) : Option Collection :=
  (Name.ofText? c).bind fun name => ix.find? name.key

/-- The primary key of the collection that a text names. -/
def primaryOfText (ix : Index) (c : Option String) : Value :=
  ((ix.ofText? c).map Collection.primary).getD defaultPrimary

theorem collection?_ofText? (ix : Index) (c : Option String) :
    ix.collection? (.ofText? c)
      = .ok ((Name.ofText? c).bind fun name => (ix.find? name.key).map (name.key, ·)) := by
  unfold collection?
  rw [Name.ofPresent_ofText?]
  cases Name.ofText? c <;> rfl

theorem primaryOf_ofText? (ix : Index) (c : Option String) :
    ix.primaryOf (.ofText? c) = .ok (ix.primaryOfText c) := by
  unfold primaryOf primaryOfText ofText?
  rw [collection?_ofText?]
  cases Name.ofText? c with
  | none => rfl
  | some name =>
    rw [Option.bind_some, Option.bind_some]
    cases ix.find? name.key <;> rfl

theorem locate_ofText? (ix : Index) (c f : Option String) :
    ix.locate (.ofText? c) (.ofText? f)
      = .ok ((FieldPlace.ofTexts? c f).filter ix.has) := by
  unfold locate FieldPlace.ofTexts?
  rw [collection?_ofText?, Name.ofPresent_ofText?]
  cases Name.ofText? c with
  | none => rfl
  | some c =>
    rw [Option.bind_some, Option.bind_some]
    cases Name.ofText? f with
    | none => cases ix.find? c.key <;> rfl
    | some f =>
      have hhas : ix.has (c.key, f.key)
          = ((ix.find? c.key).bind fun c => c.fields.find? f.key).isSome := rfl
      rw [Option.map_some, Option.filter_some, hhas]
      cases ix.find? c.key <;> rfl

/-! ## Links on places -/

/-- The index with a link on a field, if it is said where. -/
def attach? (ix : Index) (place : Option FieldPlace) (l : Link) : Index :=
  place.elim ix fun p => ix.attach p l

theorem has_attach (ix : Index) (place : FieldPlace) (l : Link) (place' : FieldPlace) :
    (ix.attach place l).has place' = ix.has place' := by
  unfold has attach
  rw [fieldAt?_modifyField]
  split
  · rw [Option.isSome_map]
  · rfl

theorem has_attach? (ix : Index) (place : Option FieldPlace) (l : Link) :
    (ix.attach? place l).has = ix.has := by
  cases place with
  | none => rfl
  | some p => exact funext (ix.has_attach p l)

/-- **A link on a field that is not there changes nothing.** -/
theorem attach_of_absent {ix : Index} {place : FieldPlace} (h : ix.has place = false)
    (l : Link) : ix.attach place l = ix := by
  refine Table.modify_eq_self fun c hc => ?_
  have hfield : c.fields.find? place.2 = none := by
    unfold has fieldAt? at h
    rw [hc, Option.bind_some, Option.isSome_eq_false_iff, Option.isNone_iff_eq_none] at h
    exact h
  have hsame : (c.fields.modify place.2 fun f => { f with relation := some l }) = c.fields :=
    Table.modify_eq_self fun f hf => absurd (hfield ▸ hf) (Option.some_ne_none f).symm
  show { c with fields := c.fields.modify place.2 fun f => { f with relation := some l } } = c
  rw [hsame]

theorem attach?_filter_has (ix : Index) (place : Option FieldPlace) (l : Link) :
    ix.attach? (place.filter ix.has) l = ix.attach? place l := by
  cases place with
  | none => rfl
  | some p =>
    rw [Option.filter_some]
    split
    · rfl
    · next h => exact (attach_of_absent (Bool.eq_false_iff.mpr h) l).symm

theorem ofText?_attach? (ix : Index) (place : Option FieldPlace) (l : Link)
    (c : Option String) :
    ((ix.attach? place l).ofText? c).map Collection.primary
      = (ix.ofText? c).map Collection.primary := by
  cases place with
  | none => rfl
  | some p =>
    unfold ofText?
    cases Name.ofText? c with
    | none => rfl
    | some name =>
      rw [Option.bind_some, Option.bind_some]
      show ((ix.attach p l).find? name.key).map _ = _
      unfold attach modifyField
      rw [Table.find?_modify]
      split
      · rw [Option.map_map]
        rfl
      · rfl

/-- **No link changes a primary key.** -/
theorem primaryOfText_attach? (ix : Index) (place : Option FieldPlace) (l : Link) :
    (ix.attach? place l).primaryOfText = ix.primaryOfText := by
  funext c
  unfold primaryOfText
  rw [ofText?_attach?]

end Index

/-! ## Relations between texts -/

namespace SidesOutline

/-- Both sides as a schema records them. -/
def sides (s : SidesOutline) : Sides :=
  ⟨.ofText? s.oneCollection, .ofText? s.oneField, .ofText? s.manyCollection,
    .ofText? s.manyField⟩

/-- The place of the field on the one side. -/
def onePlace (s : SidesOutline) : Option FieldPlace :=
  FieldPlace.ofTexts? s.oneCollection s.oneField

/-- The place of the field on the many side. -/
def manyPlace (s : SidesOutline) : Option FieldPlace :=
  FieldPlace.ofTexts? s.manyCollection s.manyField

end SidesOutline

namespace RelationOutline

/-- The relation as a schema records it. -/
def relation (r : RelationOutline) : Relation where
  field := (Value.ofText? r.field).orElse (.text "")
  collection := (Value.ofText? r.collection).orElse (.text "")
  sides := r.sides.map SidesOutline.sides
  related := .ofText? r.related
  foreignKey := .ofText? r.foreignKey

/-- The link for the field on the one side. -/
def oneLink (primary : Option String → Value) (s : SidesOutline) : Link :=
  ⟨.many, .ofText? s.manyCollection, primary s.manyCollection⟩

/-- The link for the field on the many side. -/
def manyLink (primary : Option String → Value) (r : RelationOutline) (s : SidesOutline) :
    Link :=
  ⟨.one, .ofText? s.oneCollection,
    (Value.ofText? r.foreignKey).orElse (primary s.oneCollection)⟩

/-- **What a relation does to an index**: it puts a link on the field of each
side, and just one where both sides are one field. -/
def linkOn (primary : Option String → Value) (ix : Index) (r : RelationOutline) :
    Index :=
  match r.sides with
  | none => ix
  | some s =>
    let linked := ix.attach? s.onePlace (oneLink primary s)
    if s.onePlace = s.manyPlace then linked
    else linked.attach? s.manyPlace (manyLink primary r s)

theorem primaryOfText_linkOn (primary : Option String → Value) (ix : Index)
    (r : RelationOutline) : (r.linkOn primary ix).primaryOfText = ix.primaryOfText := by
  unfold linkOn
  split
  · rfl
  · dsimp only
    split
    · rw [Index.primaryOfText_attach?]
    · rw [Index.primaryOfText_attach?, Index.primaryOfText_attach?]

/-- What is written down about a relation. -/
def complaints (r : RelationOutline) : List String :=
  if r.sides.isNone then [r.relation.complaint] else []

end RelationOutline

namespace Linking

variable {w : Linking}

theorem oneSide_sides (ix : Index) (s : SidesOutline) :
    oneSide ix s.sides
      = .ok ((s.onePlace.filter ix.has).map
          (·, RelationOutline.oneLink ix.primaryOfText s)) := by
  unfold oneSide SidesOutline.sides SidesOutline.onePlace
  rw [Index.locate_ofText?, Index.primaryOf_ofText?]
  cases (FieldPlace.ofTexts? s.oneCollection s.oneField).filter ix.has <;> rfl

theorem manySide_sides (ix : Index) (r : RelationOutline) (s : SidesOutline)
    (one : Option FieldPlace) :
    manySide ix r.relation s.sides one
      = .ok (((s.manyPlace.filter ix.has).filter fun p => one ≠ some p).map
          (·, RelationOutline.manyLink ix.primaryOfText r s)) := by
  unfold manySide SidesOutline.sides SidesOutline.manyPlace
  rw [Index.locate_ofText?]
  cases (FieldPlace.ofTexts? s.manyCollection s.manyField).filter ix.has with
  | none => rfl
  | some p =>
    show (if one = some p then pure none
      else do
        let key ← if r.relation.foreignKey.truthy then pure r.relation.foreignKey
          else ix.primaryOf (.ofText? s.oneCollection)
        pure (some (p, Link.mk .one (.ofText? s.oneCollection) key))) = _
    rw [Option.filter_some, Index.primaryOf_ofText?]
    by_cases h : one = some p
    · rw [if_pos h, if_neg (by rw [h]; exact fun hne => of_decide_eq_true hne rfl)]
      rfl
    · rw [if_neg h, if_pos (decide_eq_true h)]
      -- the primary key of the other side is asked for only without a foreign key
      unfold RelationOutline.manyLink Value.orElse
      show (do
        let key ← if r.relation.foreignKey.truthy then pure r.relation.foreignKey
          else Except.ok (ix.primaryOfText s.oneCollection)
        pure (some (p, Link.mk .one (.ofText? s.oneCollection) key))) = _
      have hkey : r.relation.foreignKey = .ofText? r.foreignKey := rfl
      rw [hkey]
      split <;> rfl

theorem index_put (w : Linking) (place : Option FieldPlace) (l : Link) :
    (w.put (place.map (·, l))).index = w.index.attach? place l := by
  cases place <;> rfl

/-- Both sides of a relation between texts are linked, the one side first. -/
theorem linkSides_sides (w : Linking) (r : RelationOutline) (s : SidesOutline) :
    w.linkSides r.relation s.sides
      = (w.put ((s.onePlace.filter w.index.has).map
            (·, RelationOutline.oneLink w.index.primaryOfText s))).put
          (((s.manyPlace.filter w.index.has).filter fun p =>
              s.onePlace.filter w.index.has ≠ some p).map
            (·, RelationOutline.manyLink w.index.primaryOfText r s)) := by
  unfold linkSides
  rw [oneSide_sides]
  dsimp only
  rw [manySide_sides, index_put, Index.primaryOfText_attach?, Index.has_attach?,
    Option.map_map]
  have hone : (s.onePlace.filter w.index.has).map
      (Prod.fst ∘ (·, RelationOutline.oneLink w.index.primaryOfText s))
        = s.onePlace.filter w.index.has := Option.map_id'
  rw [hone]

/-- **What linking both sides does to the index.** -/
theorem index_linkSides (w : Linking) (r : RelationOutline) {s : SidesOutline}
    (hs : r.sides = some s) :
    (w.linkSides r.relation s.sides).index = r.linkOn w.index.primaryOfText w.index := by
  unfold RelationOutline.linkOn
  rw [linkSides_sides, index_put, index_put, Index.attach?_filter_has, hs]
  dsimp only
  split
  · next hsame =>
    -- the many side is the one side again, if it is anywhere
    have hmany : ((s.manyPlace.filter w.index.has).filter fun p =>
        s.onePlace.filter w.index.has ≠ some p) = none := by
      rw [Option.filter_eq_none_iff, hsame]
      intro p hp
      rw [hp, decide_eq_true_iff]
      exact fun hne => hne rfl
    rw [hmany]
    rfl
  · next hother =>
    have hmany : ((s.manyPlace.filter w.index.has).filter fun p =>
        s.onePlace.filter w.index.has ≠ some p) = s.manyPlace.filter w.index.has := by
      cases hp : s.manyPlace.filter w.index.has with
      | none => rfl
      | some p =>
        refine Option.filter_some_pos (decide_eq_true fun hone => hother ?_)
        have hone' := (Option.filter_eq_some_iff.mp hone).1
        have hmany' := (Option.filter_eq_some_iff.mp hp).1
        exact hone'.trans hmany'.symm
    rw [hmany, ← Index.has_attach? w.index s.onePlace
      (RelationOutline.oneLink w.index.primaryOfText s), Index.attach?_filter_has]

/-- **Linking a relation between texts** puts on its links, and does not
fail. -/
theorem link_relation (hw : w.fault = none) (r : RelationOutline) :
    (w.link r.relation).fault = none
      ∧ (w.link r.relation).index = r.linkOn w.index.primaryOfText w.index
      ∧ (w.link r.relation).warnings = w.warnings ++ r.complaints := by
  cases hs : r.sides with
  | none =>
    have hrelation : r.relation.sides = none := by
      show r.sides.map _ = none
      rw [hs]
      rfl
    have hlink : w.link r.relation
        = { w with warnings := w.warnings ++ [r.relation.complaint] } := by
      unfold link
      rw [hw, hrelation]
      rfl
    rw [hlink, RelationOutline.linkOn, RelationOutline.complaints, hs]
    exact ⟨hw, rfl, rfl⟩
  | some s =>
    have hrelation : r.relation.sides = some s.sides := by
      show r.sides.map _ = _
      rw [hs]
      rfl
    have hlink : w.link r.relation = w.linkSides r.relation s.sides := by
      unfold link
      rw [hw, hrelation]
      rfl
    rw [hlink, index_linkSides w r hs, linkSides_sides, fault_put, fault_put, warnings_put,
      warnings_put, RelationOutline.complaints, hs]
    exact ⟨hw, rfl, (List.append_nil _).symm⟩

/-- **What the relations of an outline do to an index**: each puts on its
links, and none fails. -/
theorem resolve_relations (ix : Index) (rs : List RelationOutline) :
    (resolve ix (rs.map RelationOutline.relation)).fault = none
      ∧ (resolve ix (rs.map RelationOutline.relation)).index
        = rs.foldl (RelationOutline.linkOn ix.primaryOfText) ix
      ∧ (resolve ix (rs.map RelationOutline.relation)).warnings
        = rs.flatMap RelationOutline.complaints := by
  have hrun : ∀ w : Linking, w.fault = none → w.index.primaryOfText = ix.primaryOfText →
      ((rs.map RelationOutline.relation).foldl link w).fault = none
        ∧ ((rs.map RelationOutline.relation).foldl link w).index
          = rs.foldl (RelationOutline.linkOn ix.primaryOfText) w.index
        ∧ ((rs.map RelationOutline.relation).foldl link w).warnings
          = w.warnings ++ rs.flatMap RelationOutline.complaints := by
    induction rs with
    | nil => exact fun w hw _ => ⟨hw, rfl, (List.append_nil _).symm⟩
    | cons r rs ih =>
      intro w hw hprimary
      obtain ⟨hfault, hindex, hwarnings⟩ := link_relation hw r
      rw [hprimary] at hindex
      have hkept : (w.link r.relation).index.primaryOfText = ix.primaryOfText := by
        rw [hindex, RelationOutline.primaryOfText_linkOn, hprimary]
      obtain ⟨hfault', hindex', hwarnings'⟩ := ih (w.link r.relation) hfault hkept
      refine ⟨hfault', ?_, ?_⟩
      · rw [List.foldl_cons, ← hindex]
        exact hindex'
      · rw [List.flatMap_cons, ← List.append_assoc, ← hwarnings]
        exact hwarnings'
  obtain ⟨hfault, hindex, hwarnings⟩ := hrun (start ix) rfl rfl
  exact ⟨hfault, hindex, hwarnings⟩

end Linking

end CollectionTypes
