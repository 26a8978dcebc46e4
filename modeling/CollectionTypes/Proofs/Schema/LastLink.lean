import CollectionTypes.Proofs.Schema.Links

/-!
# Which link a field has

A relation puts a link on a field only if it addresses the field by one of
its sides (`Relation.addresses_of_mem_linksOn`). A relation with sides puts
the link of the one side on the field of that side, and the link of the many
side on the field of that one, unless the two are one field. Such a link is
the one that the field has in the end if no later relation addresses the
field (`Relation.lastOf_flatMap_linksOn`, `Index.relation_of_lastOf`).
-/

namespace CollectionTypes

open Outcome

namespace Linking

variable {ix : Index} {r : Relation} {s : Sides}

/-! ## What each side links -/

/-- **The one side** links nothing if its field is not there, and else that
field to many items of the other collection. -/
theorem oneSide_ok_iff {one : Option (FieldPlace × Link)} :
    oneSide ix s = .ok one
      ↔ (ix.locate s.oneCollection s.oneField = .ok none ∧ one = none)
        ∨ ∃ place key, ix.locate s.oneCollection s.oneField = .ok (some place)
            ∧ ix.primaryOf s.manyCollection = .ok key
            ∧ one = some (place, ⟨.many, s.manyCollection, key⟩) := by
  unfold oneSide
  rw [bind_ok_iff]
  constructor
  · rintro ⟨place?, hplace, h⟩
    cases place? with
    | none => exact .inl ⟨hplace, (Except.ok.inj h).symm⟩
    | some place =>
      obtain ⟨key, hkey, h⟩ := bind_ok_iff.mp h
      exact .inr ⟨place, key, hplace, hkey, (Except.ok.inj h).symm⟩
  · rintro (⟨hplace, rfl⟩ | ⟨place, key, hplace, hkey, rfl⟩)
    · exact ⟨none, hplace, rfl⟩
    · exact ⟨some place, hplace, bind_ok_iff.mpr ⟨key, hkey, rfl⟩⟩

/-- The key that the link of the many side goes by: the relation's own if it
names one, else the primary key of the other collection. -/
def manyKey (ix : Index) (r : Relation) (s : Sides) : Except Misuse Value :=
  if r.foreignKey.truthy then .ok r.foreignKey else ix.primaryOf s.oneCollection

/-- **The many side** links nothing if its field is not there or is that of
the one side, and else that field to one item of the other collection. -/
theorem manySide_ok_iff {one : Option FieldPlace} {many : Option (FieldPlace × Link)} :
    manySide ix r s one = .ok many
      ↔ (∃ place?, ix.locate s.manyCollection s.manyField = .ok place?
            ∧ (place? = none ∨ place? = one) ∧ many = none)
        ∨ ∃ place key, ix.locate s.manyCollection s.manyField = .ok (some place)
            ∧ one ≠ some place ∧ manyKey ix r s = .ok key
            ∧ many = some (place, ⟨.one, s.oneCollection, key⟩) := by
  have hstep : manySide ix r s one = ix.locate s.manyCollection s.manyField >>= fun place? =>
      place?.elim (.ok none) fun place => if one = some place then .ok none
        else (manyKey ix r s).map fun key => some (place, ⟨.one, s.oneCollection, key⟩) := by
    unfold manySide manyKey
    refine congrArg (_ >>= ·) (funext fun place? => ?_)
    cases place? with
    | none => rfl
    | some place =>
      show (if one = some place then _ else _) = if one = some place then _ else _
      refine congrArg (ite _ _) ?_
      split <;> rfl
  rw [hstep, bind_ok_iff]
  constructor
  · rintro ⟨place?, hplace, h⟩
    cases place? with
    | none => exact .inl ⟨none, hplace, .inl rfl, (Except.ok.inj h).symm⟩
    | some place =>
      rw [Option.elim_some] at h
      split at h
      · next hsame => exact .inl ⟨_, hplace, .inr hsame.symm, (Except.ok.inj h).symm⟩
      · next hother =>
        obtain ⟨key, hkey, rfl⟩ := map_ok_iff.mp h
        exact .inr ⟨place, key, hplace, hother, hkey, rfl⟩
  · rintro (⟨place?, hplace, hnone, rfl⟩ | ⟨place, key, hplace, hother, hkey, rfl⟩)
    · refine ⟨place?, hplace, ?_⟩
      cases place? with
      | none => rfl
      | some place =>
        rcases hnone with hnone | rfl
        · cases hnone
        · exact if_pos rfl
    · refine ⟨some place, hplace, ?_⟩
      rw [Option.elim_some, if_neg hother]
      exact map_ok_iff.mpr ⟨key, hkey, rfl⟩

end Linking

open Linking

namespace Relation

variable {ix : Index} {r : Relation}

/-- **A relation puts links on fields that it addresses**, and on no others. -/
theorem addresses_of_mem_linksOn {l : FieldPlace × Link} (hl : l ∈ r.linksOn ix) :
    r.Addresses ix l.1 := by
  cases hs : r.sides with
  | none =>
    rw [linksOn_of_ok (linksOf_of_no_sides ix hs)] at hl
    cases hl
  | some s =>
    unfold linksOn at hl
    cases hls : linksOf ix r with
    | error m =>
      rw [hls] at hl
      cases hl
    | ok ls =>
      rw [hls] at hl
      replace hl : l ∈ ls := hl
      obtain ⟨one, many, hone, hmany, rfl⟩ := (linksOf_ok_iff hs).mp hls
      refine ⟨s, hs, ?_⟩
      rcases List.mem_append.mp hl with hl | hl
      · rcases oneSide_ok_iff.mp hone with ⟨-, rfl⟩ | ⟨place, key, hplace, -, rfl⟩
        · cases hl
        · rw [List.mem_singleton.mp hl]
          exact .inl hplace
      · rcases manySide_ok_iff.mp hmany with ⟨_, -, -, rfl⟩ | ⟨place, key, hplace, -, -, rfl⟩
        · cases hl
        · rw [List.mem_singleton.mp hl]
          exact .inr hplace

/-- Relations that do not address a field put no link on it. -/
theorem lastOf_flatMap_linksOn_eq_none {rs : List Relation} {place : FieldPlace}
    (h : ∀ r ∈ rs, ¬ r.Addresses ix place) :
    Table.lastOf place (rs.flatMap (linksOn ix)) = none := by
  refine Table.lastOf_eq_none fun hplace => ?_
  obtain ⟨l, hl, rfl⟩ := List.mem_map.mp hplace
  obtain ⟨r, hr, hl⟩ := List.mem_flatMap.mp hl
  exact h r hr (addresses_of_mem_linksOn hl)

/-- **What a relation puts on a field stays**, if no later relation addresses
the field. -/
theorem lastOf_flatMap_linksOn {place : FieldPlace} {l : Link}
    (hl : Table.lastOf place (r.linksOn ix) = some l) (before : List Relation)
    {after : List Relation} (hafter : ∀ r' ∈ after, ¬ r'.Addresses ix place) :
    Table.lastOf place ((before ++ r :: after).flatMap (linksOn ix)) = some l := by
  rw [List.flatMap_append, List.flatMap_cons, Table.lastOf_append, Table.lastOf_append,
    lastOf_flatMap_linksOn_eq_none hafter, hl]
  rfl

variable {s : Sides} {ls : List (FieldPlace × Link)} {place : FieldPlace}

/-- The last link that a relation puts on the field of its one side. -/
theorem lastOf_linksOn_of_oneSide (hs : r.sides = some s) (hls : linksOf ix r = .ok ls)
    (hplace : ix.locate s.oneCollection s.oneField = .ok (some place)) :
    ∃ key, ix.primaryOf s.manyCollection = .ok key
      ∧ Table.lastOf place (r.linksOn ix) = some ⟨.many, s.manyCollection, key⟩ := by
  obtain ⟨one, many, hone, hmany, rfl⟩ := (linksOf_ok_iff hs).mp hls
  rcases oneSide_ok_iff.mp hone with ⟨hnone, -⟩ | ⟨place', key, hplace', hkey, rfl⟩
  · rw [hplace] at hnone
    cases hnone
  · obtain rfl : place = place' := Option.some.inj (Except.ok.inj (hplace.symm.trans hplace'))
    refine ⟨key, hkey, ?_⟩
    -- the many side has another field, or links nothing
    have hrest : Table.lastOf place many.toList = none := by
      rcases manySide_ok_iff.mp hmany with ⟨_, -, -, rfl⟩ | ⟨place', key', -, hother, -, rfl⟩
      · rfl
      · refine if_neg fun hsame => hother ?_
        exact congrArg some hsame.symm
    rw [linksOn_of_ok hls, Table.lastOf_append, hrest]
    exact if_pos rfl

/-- The last link that a relation puts on the field of its many side, if that
is not the field of the one side. -/
theorem lastOf_linksOn_of_manySide (hs : r.sides = some s) (hls : linksOf ix r = .ok ls)
    (hplace : ix.locate s.manyCollection s.manyField = .ok (some place))
    (hother : ix.locate s.oneCollection s.oneField ≠ .ok (some place)) :
    ∃ key, manyKey ix r s = .ok key
      ∧ Table.lastOf place (r.linksOn ix) = some ⟨.one, s.oneCollection, key⟩ := by
  obtain ⟨one, many, hone, hmany, rfl⟩ := (linksOf_ok_iff hs).mp hls
  have hne : one.map Prod.fst ≠ some place := by
    rcases oneSide_ok_iff.mp hone with ⟨-, rfl⟩ | ⟨place', key, hplace', -, rfl⟩
    · exact (Option.some_ne_none place).symm
    · intro hsame
      obtain rfl : place' = place := Option.some.inj hsame
      exact hother hplace'
  rcases manySide_ok_iff.mp hmany with ⟨place?, hplace', hnone, -⟩ | ⟨place', key, hplace', -, hkey, rfl⟩
  · obtain rfl : some place = place? := Except.ok.inj (hplace.symm.trans hplace')
    rcases hnone with hnone | hnone
    · cases hnone
    · exact absurd hnone.symm hne
  · obtain rfl : place = place' := Option.some.inj (Except.ok.inj (hplace.symm.trans hplace'))
    refine ⟨key, hkey, ?_⟩
    rw [linksOn_of_ok hls, Table.lastOf_append, show Table.lastOf place
      (some (place, (⟨.one, s.oneCollection, key⟩ : Link))).toList = some _ from if_pos rfl]
    rfl

end Relation

/-! ## The link of a field in the end -/

namespace Index

theorem frame_linked (ix : Index) (ls : List (FieldPlace × Link)) :
    (ix.linked ls).frame = ix.frame := by
  rw [← attachAll_eq_linked, frame_attachAll]

/-- A field has the last link that is put on it. -/
theorem relation_of_lastOf {ix : Index} {ls : List (FieldPlace × Link)} {place : FieldPlace}
    {l : Link} (hl : Table.lastOf place ls = some l) {f : Field}
    (hf : (ix.linked ls).fieldAt? place = some f) : f.relation = some l := by
  unfold fieldAt? at hf
  rw [find?_linked] at hf
  obtain ⟨c', hc', hf⟩ := Option.bind_eq_some_iff.mp hf
  obtain ⟨c, -, rfl⟩ := Option.map_eq_some_iff.mp hc'
  have hfields : (c.linked ls place.1).fields.find? place.2
      = (c.fields.find? place.2).map fun f => f.withLink? (Table.lastOf place ls) :=
    Table.find?_mapEntries _ c.fields place.2
  rw [hfields, hl] at hf
  obtain ⟨f', -, rfl⟩ := Option.map_eq_some_iff.mp hf
  rfl

end Index

end CollectionTypes
