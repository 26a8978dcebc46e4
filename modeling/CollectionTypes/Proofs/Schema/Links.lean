import CollectionTypes.Proofs.Outcome
import CollectionTypes.Proofs.Readings
import CollectionTypes.Proofs.Schema.Keyed

/-!
# The links of all relations

What a relation links depends on little of an index: on the primary keys of
the collections that it names, and on which fields these have
(`Index.frame`). No link changes either, so the links of each relation can be
told from the index before linking (`Linking.linksOf`). Linking goes well
exactly if the links of every relation can be told
(`Linking.fault_resolve_iff`), and then it puts all of them on, one after the
other (`Linking.index_resolve`).

Of several links on one field the last one stays; nothing else of the index
changes (`Index.linked`).
-/

namespace CollectionTypes

open Outcome

/-! ## What linking asks of an index -/

namespace Index

/-- **What linking asks of a collection**: its primary key, and which fields
it has. -/
def frame (ix : Index) (k : Key) : Option (Value × (Key → Bool)) :=
  (ix.find? k).map fun c => (c.primary, c.fields.contains)

/-- **Two indexes agree about a name** if linking finds no difference between
the collections that it names. -/
def AgreeOn (ix ix' : Index) (v : Value) : Prop :=
  ∀ name, Name.ofPresent v = .ok (some name) → ix.frame name.key = ix'.frame name.key

variable {ix ix' : Index} {v : Value}

theorem agreeOn_of_frame (h : ix.frame = ix'.frame) (v : Value) : ix.AgreeOn ix' v :=
  fun name _ => congrFun h name.key

/-- A name leads to the collection under its key. -/
theorem collection?_of_name (ix : Index) {name : Name}
    (hname : Name.ofPresent v = .ok (some name)) :
    ix.collection? v = .ok ((ix.find? name.key).map (name.key, ·)) := by
  unfold collection?
  rw [hname]
  rfl

/-- Where indexes agree, both lead to nothing, or both to a collection with the
same primary key and the same fields. -/
theorem AgreeOn.cases (h : ix.AgreeOn ix' v) :
    ix.collection? v = ix'.collection? v
      ∨ ∃ key c c', ix.collection? v = .ok (some (key, c))
          ∧ ix'.collection? v = .ok (some (key, c'))
          ∧ c.primary = c'.primary ∧ ∀ k, c.fields.contains k = c'.fields.contains k := by
  by_cases hname : ∃ name, Name.ofPresent v = .ok (some name)
  case neg =>
    refine .inl ?_
    unfold collection?
    cases hv : Name.ofPresent v with
    | error m => rfl
    | ok name? =>
      cases name? with
      | none => rfl
      | some name => exact absurd ⟨name, hv⟩ hname
  obtain ⟨name, hname⟩ := hname
  have hframe := h name hname
  unfold frame at hframe
  rw [collection?_of_name ix hname, collection?_of_name ix' hname]
  cases hc : ix.find? name.key with
  | none =>
    rw [hc, Option.map_none, eq_comm, Option.map_eq_none_iff] at hframe
    rw [hframe]
    exact .inl rfl
  | some c =>
    rw [hc, Option.map_some, eq_comm, Option.map_eq_some_iff] at hframe
    obtain ⟨c', hc', hsame⟩ := hframe
    obtain ⟨hprimary, hfields⟩ := Prod.mk.inj hsame
    rw [hc']
    exact .inr ⟨_, c, c', rfl, rfl, hprimary.symm, fun k => (congrFun hfields k).symm⟩

/-- A field is looked for in the same place. -/
theorem locate_congr (h : ix.AgreeOn ix' v) (field : Value) :
    ix.locate v field = ix'.locate v field := by
  unfold locate
  rcases h.cases with hsame | ⟨key, c, c', hc, hc', -, hfields⟩
  · rw [hsame]
  · rw [hc, hc']
    cases Name.ofPresent field with
    | error m => rfl
    | ok name? =>
      cases name? with
      | none => rfl
      | some name =>
        refine congrArg Except.ok ?_
        rw [hfields]

/-- A primary key is the same. -/
theorem primaryOf_congr (h : ix.AgreeOn ix' v) : ix.primaryOf v = ix'.primaryOf v := by
  unfold primaryOf
  rcases h.cases with hsame | ⟨key, c, c', hc, hc', hprimary, -⟩
  · rw [hsame]
  · rw [hc, hc']
    exact congrArg Except.ok hprimary

/-! ## Links on an index -/

theorem frame_attach (ix : Index) (place : FieldPlace) (l : Link) :
    (ix.attach place l).frame = ix.frame := by
  have hfields : ∀ (c : Collection) (k : Key), (c.fields.modify place.2
      fun f => { f with relation := some l }).contains k = c.fields.contains k := by
    intro c k
    unfold Table.contains
    rw [Table.find?_modify]
    split
    · rw [Option.isSome_map]
    · rfl
  funext k
  unfold frame attach modifyField
  rw [Table.find?_modify]
  split
  · rw [Option.map_map]
    refine Option.map_congr fun c _ => ?_
    exact congrArg (c.primary, ·) (funext (hfields c))
  · rfl

/-- The index with links put on fields, one after the other. -/
def attachAll (ix : Index) (ls : List (FieldPlace × Link)) : Index :=
  ls.foldl (fun ix l => ix.attach l.1 l.2) ix

theorem attachAll_append (ix : Index) (ls ls' : List (FieldPlace × Link)) :
    ix.attachAll (ls ++ ls') = (ix.attachAll ls).attachAll ls' :=
  List.foldl_append

theorem frame_attachAll (ix : Index) (ls : List (FieldPlace × Link)) :
    (ix.attachAll ls).frame = ix.frame := by
  induction ls generalizing ix with
  | nil => rfl
  | cons l ls ih => exact (ih _).trans (ix.frame_attach l.1 l.2)

end Index

/-- The field with a link, if there is one to put on. -/
def Field.withLink? (f : Field) (l : Option Link) : Field :=
  { f with relation := l.or f.relation }

/-- The collection with the last link on each of its fields. -/
def Collection.linked (ls : List (FieldPlace × Link)) (key : Key) (c : Collection) :
    Collection :=
  c.withFields fun t => t.mapEntries fun k f => f.withLink? (Table.lastOf (key, k) ls)

namespace Index

/-- **The index with the last link on each field.** -/
def linked (ix : Index) (ls : List (FieldPlace × Link)) : Index :=
  ix.mapEntries (Collection.linked ls)

theorem linked_nil (ix : Index) : ix.linked [] = ix := by
  have hfields : ∀ (key : Key) (c : Collection), c.linked [] key = c := by
    intro key c
    have hsame : (c.fields.mapEntries fun _ f => f.withLink? none) = c.fields :=
      c.fields.mapEntries_id
    show { c with fields := c.fields.mapEntries fun _ f => f.withLink? none } = c
    rw [hsame]
  unfold linked
  rw [funext fun key => funext (hfields key)]
  exact ix.mapEntries_id

/-- One link more in front counts where no other link comes. -/
theorem linked_cons (ix : Index) (l : FieldPlace × Link) (ls : List (FieldPlace × Link)) :
    (ix.attach l.1 l.2).linked ls = ix.linked (l :: ls) := by
  obtain ⟨⟨key', k'⟩, l⟩ := l
  unfold linked attach modifyField
  rw [Table.modify_eq_mapEntries, Table.mapEntries_mapEntries]
  refine congrArg (ix.mapEntries ·) (funext fun key => funext fun c => ?_)
  show (if key = key' then _ else c).linked ls key = c.linked (((key', k'), l) :: ls) key
  split
  · next hkey =>
    -- the collection has the field that the link is for, if any has
    subst hkey
    refine congrArg (fun t => ({ c with fields := t } : Collection)) ?_
    show (c.fields.modify k' fun f => { f with relation := some l }).mapEntries
      (fun k f => f.withLink? (Table.lastOf (key, k) ls)) = _
    rw [Table.modify_eq_mapEntries, Table.mapEntries_mapEntries]
    refine congrArg (c.fields.mapEntries ·) (funext fun k => funext fun f => ?_)
    by_cases hk : k = k'
    · rw [if_pos hk, hk]
      unfold Field.withLink?
      rw [Table.lastOf_cons, if_pos rfl, Option.or_assoc]
      rfl
    · have hne : ((key, k') : FieldPlace) ≠ (key, k) := fun h => hk (congrArg Prod.snd h).symm
      rw [if_neg hk, Table.lastOf_cons_of_ne hne]
  · next hkey =>
    have hne : ∀ k, ((key', k') : FieldPlace) ≠ (key, k) := fun k h =>
      hkey (congrArg Prod.fst h).symm
    refine congrArg c.withFields (funext fun t => congrArg (t.mapEntries ·) ?_)
    funext k f
    rw [Table.lastOf_cons_of_ne (hne k)]

/-- **Of the links on a field the last one stays.** -/
theorem attachAll_eq_linked (ix : Index) (ls : List (FieldPlace × Link)) :
    ix.attachAll ls = ix.linked ls := by
  induction ls generalizing ix with
  | nil => exact ix.linked_nil.symm
  | cons l ls ih => exact (ih _).trans (ix.linked_cons l ls)

theorem find?_linked (ix : Index) (ls : List (FieldPlace × Link)) (key : Key) :
    (ix.linked ls).find? key = (ix.find? key).map (Collection.linked ls key) :=
  Table.find?_mapEntries _ ix key

end Index

/-! ## The links of a relation -/

/-- **A relation addresses a field** by one of its sides. -/
def Relation.Addresses (ix : Index) (r : Relation) (place : FieldPlace) : Prop :=
  ∃ s, r.sides = some s ∧ (ix.locate s.oneCollection s.oneField = .ok (some place)
    ∨ ix.locate s.manyCollection s.manyField = .ok (some place))

namespace Linking

/-- **The links that a relation puts on**, that of the one side first. -/
def linksOf (ix : Index) (r : Relation) : Except Misuse (List (FieldPlace × Link)) :=
  match r.sides with
  | none => .ok []
  | some s => do
    let one ← oneSide ix s
    let many ← manySide ix r s (one.map Prod.fst)
    return one.toList ++ many.toList

theorem linksOf_of_no_sides (ix : Index) {r : Relation} (hs : r.sides = none) :
    linksOf ix r = .ok [] := by
  unfold linksOf
  rw [hs]

/-- The links of a relation can be told if those of both sides can. -/
theorem linksOf_ok_iff {ix : Index} {r : Relation} {s : Sides} (hs : r.sides = some s)
    {ls : List (FieldPlace × Link)} :
    linksOf ix r = .ok ls
      ↔ ∃ one many, oneSide ix s = .ok one ∧ manySide ix r s (one.map Prod.fst) = .ok many
          ∧ ls = one.toList ++ many.toList := by
  unfold linksOf
  rw [hs]
  constructor
  · intro h
    obtain ⟨one, hone, h⟩ := bind_ok_iff.mp h
    obtain ⟨many, hmany, h⟩ := bind_ok_iff.mp h
    exact ⟨one, many, hone, hmany, (Except.ok.inj h).symm⟩
  · rintro ⟨one, many, hone, hmany, rfl⟩
    exact bind_ok_iff.mpr ⟨one, hone, bind_ok_iff.mpr ⟨many, hmany, rfl⟩⟩

variable {ix ix' : Index}

theorem oneSide_congr {s : Sides} (hone : ix.AgreeOn ix' s.oneCollection)
    (hmany : ix.AgreeOn ix' s.manyCollection) : oneSide ix s = oneSide ix' s := by
  unfold oneSide
  rw [Index.locate_congr hone, Index.primaryOf_congr hmany]

theorem manySide_congr {s : Sides} (hone : ix.AgreeOn ix' s.oneCollection)
    (hmany : ix.AgreeOn ix' s.manyCollection) (r : Relation) (one : Option FieldPlace) :
    manySide ix r s one = manySide ix' r s one := by
  unfold manySide
  rw [Index.locate_congr hmany, Index.primaryOf_congr hone]

/-- **Indexes that agree about both sides** of a relation get the same links
from it. -/
theorem linksOf_congr {r : Relation} (h : ∀ s, r.sides = some s →
    ix.AgreeOn ix' s.oneCollection ∧ ix.AgreeOn ix' s.manyCollection) :
    linksOf ix r = linksOf ix' r := by
  unfold linksOf
  cases hs : r.sides with
  | none => rfl
  | some s =>
    obtain ⟨hone, hmany⟩ := h s hs
    simp only [oneSide_congr hone hmany, manySide_congr hone hmany]

theorem linksOf_eq_of_frame (h : ix.frame = ix'.frame) : linksOf ix = linksOf ix' :=
  funext fun _ => linksOf_congr fun _ _ => ⟨Index.agreeOn_of_frame h _, Index.agreeOn_of_frame h _⟩

end Linking

/-- The links that a relation puts on; none if they cannot be told. -/
def Relation.linksOn (ix : Index) (r : Relation) : List (FieldPlace × Link) :=
  (Linking.linksOf ix r).toOption.getD []

theorem Relation.linksOn_of_ok {ix : Index} {r : Relation} {ls : List (FieldPlace × Link)}
    (h : Linking.linksOf ix r = .ok ls) : r.linksOn ix = ls := by
  unfold linksOn
  rw [h]
  rfl

/-! ## All relations -/

namespace Linking

variable {ix : Index} {w : Linking} {r : Relation}

theorem index_put_eq_attachAll (w : Linking) (side : Option (FieldPlace × Link)) :
    (w.put side).index = w.index.attachAll side.toList := by
  cases side <;> rfl

theorem link_of_no_sides (hw : w.fault = none) (hs : r.sides = none) :
    w.link r = { w with warnings := w.warnings ++ [r.complaint] } := by
  unfold link
  rw [hw, hs]
  rfl

theorem link_of_sides (hw : w.fault = none) {s : Sides} (hs : r.sides = some s) :
    w.link r = w.linkSides r s := by
  unfold link
  rw [hw, hs]
  rfl

theorem linkSides_of_error {s : Sides} {m : Misuse} (h : oneSide w.index s = .error m) :
    w.linkSides r s = w.stop m := by
  unfold linkSides
  rw [h]

/-- The link of the one side does not change what the many side is. -/
theorem manySide_put (w : Linking) (side : Option (FieldPlace × Link)) (r : Relation) (s : Sides)
    (one : Option FieldPlace) :
    manySide (w.put side).index r s one = manySide w.index r s one := by
  have hframe : (w.put side).index.frame = w.index.frame := by
    rw [index_put_eq_attachAll, Index.frame_attachAll]
  exact manySide_congr (Index.agreeOn_of_frame hframe _) (Index.agreeOn_of_frame hframe _) r one

theorem linkSides_of_ok {s : Sides} {one many : Option (FieldPlace × Link)}
    (hone : oneSide w.index s = .ok one)
    (hmany : manySide w.index r s (one.map Prod.fst) = .ok many) :
    w.linkSides r s = (w.put one).put many := by
  unfold linkSides
  simp only [hone, manySide_put, hmany]

theorem linkSides_of_many_error {s : Sides} {one : Option (FieldPlace × Link)} {m : Misuse}
    (hone : oneSide w.index s = .ok one)
    (hmany : manySide w.index r s (one.map Prod.fst) = .error m) :
    w.linkSides r s = (w.put one).stop m := by
  unfold linkSides
  simp only [hone, manySide_put, hmany]

/-- **One relation more**: it puts its links on. -/
theorem link_of_ok (hw : w.fault = none) {ls : List (FieldPlace × Link)}
    (h : linksOf w.index r = .ok ls) :
    (w.link r).fault = none ∧ (w.link r).index = w.index.attachAll ls := by
  cases hs : r.sides with
  | none =>
    rw [linksOf_of_no_sides _ hs] at h
    cases h
    rw [link_of_no_sides hw hs]
    exact ⟨hw, rfl⟩
  | some s =>
    obtain ⟨one, many, hone, hmany, rfl⟩ := (linksOf_ok_iff hs).mp h
    rw [link_of_sides hw hs, linkSides_of_ok hone hmany, fault_put, fault_put,
      index_put_eq_attachAll, index_put_eq_attachAll, Index.attachAll_append]
    exact ⟨hw, rfl⟩

/-- A relation whose links cannot be told stops the work. -/
theorem link_of_error (hw : w.fault = none) {m : Misuse} (h : linksOf w.index r = .error m) :
    (w.link r).fault ≠ none := by
  cases hs : r.sides with
  | none =>
    rw [linksOf_of_no_sides _ hs] at h
    cases h
  | some s =>
    rw [link_of_sides hw hs]
    cases hone : oneSide w.index s with
    | error m =>
      rw [linkSides_of_error hone]
      exact Option.some_ne_none m
    | ok one =>
      cases hmany : manySide w.index r s (one.map Prod.fst) with
      | error m =>
        rw [linkSides_of_many_error hone hmany]
        exact Option.some_ne_none m
      | ok many =>
        -- both sides can be told, so all can
        rw [(linksOf_ok_iff hs).mpr ⟨one, many, hone, hmany, rfl⟩] at h
        cases h

/-- Work that has stopped does not go on. -/
theorem foldl_link_of_fault (hw : w.fault ≠ none) (rs : List Relation) :
    rs.foldl link w = w := by
  induction rs with
  | nil => rfl
  | cons r rs ih =>
    have hlink : w.link r = w := if_pos (Option.isSome_iff_ne_none.mpr hw)
    rw [List.foldl_cons, hlink, ih]

/-- **Linking goes well** exactly if the links of every relation can be
told. -/
theorem fault_foldl_link_iff (hw : w.fault = none) (hframe : w.index.frame = ix.frame)
    (rs : List Relation) :
    (rs.foldl link w).fault = none ↔ ∀ r ∈ rs, ∃ ls, linksOf ix r = .ok ls := by
  induction rs generalizing w with
  | nil => exact ⟨fun _ r hr => absurd hr List.not_mem_nil, fun _ => hw⟩
  | cons r rs ih =>
    rw [List.foldl_cons, List.forall_mem_cons, ← linksOf_eq_of_frame hframe]
    cases h : linksOf w.index r with
    | ok ls =>
      obtain ⟨hfault, hindex⟩ := link_of_ok hw h
      have hframe' : (w.link r).index.frame = ix.frame := by
        rw [hindex, Index.frame_attachAll, hframe]
      rw [ih hfault hframe', linksOf_eq_of_frame hframe]
      exact (and_iff_right ⟨ls, rfl⟩).symm
    | error m =>
      have hfault := link_of_error hw h
      rw [foldl_link_of_fault hfault]
      refine iff_of_false hfault ?_
      rintro ⟨⟨ls, hls⟩, -⟩
      cases hls

/-- **Linking puts on the links of every relation**, one after the other. -/
theorem index_foldl_link (hw : w.fault = none) (hframe : w.index.frame = ix.frame)
    {rs : List Relation} (h : ∀ r ∈ rs, ∃ ls, linksOf ix r = .ok ls) :
    (rs.foldl link w).index = w.index.attachAll (rs.flatMap (Relation.linksOn ix)) := by
  induction rs generalizing w with
  | nil => rfl
  | cons r rs ih =>
    obtain ⟨⟨ls, hls⟩, hrest⟩ := List.forall_mem_cons.mp h
    have hls' : linksOf w.index r = .ok ls := by rw [linksOf_eq_of_frame hframe, hls]
    obtain ⟨hfault, hindex⟩ := link_of_ok hw hls'
    have hframe' : (w.link r).index.frame = ix.frame := by
      rw [hindex, Index.frame_attachAll, hframe]
    rw [List.foldl_cons, ih hfault hframe' hrest, hindex, List.flatMap_cons,
      Index.attachAll_append, Relation.linksOn_of_ok hls]

theorem fault_resolve_iff {rs : List Relation} :
    (resolve ix rs).fault = none ↔ ∀ r ∈ rs, ∃ ls, linksOf ix r = .ok ls :=
  fault_foldl_link_iff rfl rfl rs

/-- **What linking makes of an index**: every field has the last link that a
relation puts on it. -/
theorem index_resolve {rs : List Relation} (h : (resolve ix rs).fault = none) :
    (resolve ix rs).index = ix.linked (rs.flatMap (Relation.linksOn ix)) := by
  rw [← Index.attachAll_eq_linked]
  exact index_foldl_link rfl rfl (fault_resolve_iff.mp h)

end Linking

end CollectionTypes
