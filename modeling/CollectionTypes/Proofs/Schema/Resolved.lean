import CollectionTypes.Proofs.Schema.Links

/-!
# What resolving does

A relation *addresses* at most two fields, each with a link to put there
(`Relation.addressed`): the field of its one side, with a link to many items by
the primary key of the other collection, and the field of its many side, unless
it is the same one, with a link to one item by the relation's own key or else the
primary key of the other collection. A side whose field is not indexed is left
out, and the other side does not notice.

Resolving relations is then told without a run (`resolve_is_exact`). Every
field has the link of the last relation that addresses it, or the one that it
had; nothing else of the index changes; the links that are counted are those
that fields were addressed with; and there is a warning for each relation
without sides. Links change nothing that relations ask of an index, so a second
round of the same relations makes no difference. Only a name that makes no sense,
such as a list, keeps the work from its end, and only where it is looked up
(`Sides.Traceable`).
-/

namespace CollectionTypes

open Outcome

/-! ## Names that can be looked up -/

/-- **A value that can be looked up** as a name: it does not count as present,
or it can stand as a name. -/
def Value.IsNameable (v : Value) : Prop :=
  v.truthy = true → (Name.ofValue? v).isSome = true

instance : DecidablePred Value.IsNameable := fun v =>
  inferInstanceAs (Decidable (v.truthy = true → _))

/-- The name that a value gives, if it counts as present. -/
def Value.name? (v : Value) : Option Name :=
  if v.truthy then Name.ofValue? v else none

theorem Name.ofPresent_ok_iff {v : Value} {name? : Option Name} :
    ofPresent v = .ok name? ↔ v.IsNameable ∧ name? = v.name? := by
  unfold ofPresent ofValue Value.IsNameable Value.name?
  by_cases htruthy : v.truthy = true
  · rw [if_pos htruthy, if_pos htruthy]
    cases ofValue? v with
    | none => simp [Except.map, htruthy]
    | some name => exact pure_ok_iff.trans (by simp)
  · rw [if_neg htruthy, if_neg htruthy]
    exact pure_ok_iff.trans (by simp [htruthy])

namespace Index

variable (ix : Index)

/-- **The collection under a value**, if it is indexed, and its key. -/
def named? (v : Value) : Option (Key × Collection) :=
  v.name?.bind fun c => (ix.find? c.key).map fun found => (c.key, found)

/-- **The place of an indexed field**, by the names of its collection and its
own. -/
def placeOf? (collection field : Value) : Option FieldPlace :=
  (ix.named? collection).bind fun c => field.name?.bind fun f =>
    if c.2.fields.contains f.key then some (c.1, f.key) else none

/-- **The key that a collection goes by**: its indexed primary key, else the
default. -/
def primaryUnder (collection : Value) : Value :=
  (ix.named? collection).elim defaultPrimary fun c => c.2.primary

variable {ix}

theorem collection?_ok_iff {v : Value} {c? : Option (Key × Collection)} :
    ix.collection? v = .ok c? ↔ v.IsNameable ∧ c? = ix.named? v := by
  unfold collection? named?
  simp only [bind_ok_iff, Name.ofPresent_ok_iff]
  constructor
  · rintro ⟨_, ⟨hv, rfl⟩, h⟩
    refine ⟨hv, ?_⟩
    cases hname : v.name? <;> rw [hname] at h <;> exact pure_ok_iff.mp h
  · rintro ⟨hv, rfl⟩
    refine ⟨_, ⟨hv, rfl⟩, ?_⟩
    cases v.name? <;> rfl

/-- **Looking for a field** finds its place. Its name is asked for only if its
collection is there. -/
theorem locate_ok_iff {collection field : Value} {place : Option FieldPlace} :
    ix.locate collection field = .ok place
      ↔ collection.IsNameable ∧ ((ix.named? collection).isSome → field.IsNameable)
        ∧ place = ix.placeOf? collection field := by
  unfold locate placeOf?
  simp only [bind_ok_iff, collection?_ok_iff, and_assoc, exists_and_left, exists_eq_left]
  refine and_congr_right fun _ => ?_
  cases ix.named? collection with
  | none => exact pure_ok_iff.trans (by simp)
  | some c =>
    simp only [bind_ok_iff, Name.ofPresent_ok_iff, and_assoc, exists_and_left, exists_eq_left,
      Option.isSome_some, true_imp_iff, Option.bind_some]
    refine and_congr_right fun _ => ?_
    cases field.name? <;> exact pure_ok_iff

/-- Looking for a primary key finds the key that the collection goes by. -/
theorem primaryOf_ok_iff {collection key : Value} :
    ix.primaryOf collection = .ok key
      ↔ collection.IsNameable ∧ key = ix.primaryUnder collection := by
  unfold primaryOf primaryUnder
  simp only [bind_ok_iff, collection?_ok_iff, and_assoc, exists_and_left, exists_eq_left]
  refine and_congr_right fun _ => ?_
  cases ix.named? collection <;> exact pure_ok_iff

end Index

/-! ## What a relation addresses -/

/-- **Sides that can be looked up** in an index: so can the names of both
collections, and that of a field if its collection is there. -/
structure Sides.Traceable (ix : Index) (s : Sides) : Prop where
  oneCollection : s.oneCollection.IsNameable
  oneField : (ix.named? s.oneCollection).isSome → s.oneField.IsNameable
  manyCollection : s.manyCollection.IsNameable
  manyField : (ix.named? s.manyCollection).isSome → s.manyField.IsNameable

instance (ix : Index) : DecidablePred (Sides.Traceable ix) := fun _ =>
  decidable_of_iff (_ ∧ _ ∧ _ ∧ _) ⟨fun h => ⟨h.1, h.2.1, h.2.2.1, h.2.2.2⟩,
    fun h => ⟨h.oneCollection, h.oneField, h.manyCollection, h.manyField⟩⟩

/-- **The fields that a relation addresses**, each with the link to put there,
that of the one side first. A field that is both sides counts as the one
side. -/
def Relation.addressed (ix : Index) (r : Relation) : List (FieldPlace × Link) :=
  match r.sides with
  | none => []
  | some s =>
    let one := ix.placeOf? s.oneCollection s.oneField
    let many := ix.placeOf? s.manyCollection s.manyField
    (one.map fun place =>
        (place, Link.mk .many s.manyCollection (ix.primaryUnder s.manyCollection))).toList
      ++ if many = one then [] else
        (many.map fun place => (place,
          Link.mk .one s.oneCollection (r.foreignKey.orElse (ix.primaryUnder s.oneCollection)))).toList

namespace Linking

variable {ix ix' : Index} {r : Relation} {s : Sides}

/-- The link of the one side, if there is one. -/
theorem oneSide_ok_iff_placeOf {one : Option (FieldPlace × Link)} :
    oneSide ix s = .ok one
      ↔ s.oneCollection.IsNameable ∧ ((ix.named? s.oneCollection).isSome → s.oneField.IsNameable)
        ∧ ((ix.placeOf? s.oneCollection s.oneField).isSome → s.manyCollection.IsNameable)
        ∧ one = (ix.placeOf? s.oneCollection s.oneField).map fun place =>
            (place, ⟨.many, s.manyCollection, ix.primaryUnder s.manyCollection⟩) := by
  unfold oneSide
  simp only [bind_ok_iff, Index.locate_ok_iff, and_assoc, exists_and_left, exists_eq_left]
  refine and_congr_right fun _ => and_congr_right fun _ => ?_
  cases ix.placeOf? s.oneCollection s.oneField with
  | none => exact pure_ok_iff.trans (by simp)
  | some place =>
    simp only [bind_ok_iff, Index.primaryOf_ok_iff, and_assoc, exists_and_left, exists_eq_left,
      Option.isSome_some, true_imp_iff, Option.map_some]
    exact and_congr_right fun _ => pure_ok_iff

/-- The link of the many side, if there is one and it is not the field of the one
side. -/
theorem manySide_ok_iff_placeOf {one : Option FieldPlace} {many : Option (FieldPlace × Link)}
    (hone : s.oneCollection.IsNameable) :
    manySide ix r s one = .ok many
      ↔ s.manyCollection.IsNameable
        ∧ ((ix.named? s.manyCollection).isSome → s.manyField.IsNameable)
        ∧ many = if ix.placeOf? s.manyCollection s.manyField = one then none else
            (ix.placeOf? s.manyCollection s.manyField).map fun place => (place,
              ⟨.one, s.oneCollection, r.foreignKey.orElse (ix.primaryUnder s.oneCollection)⟩) := by
  unfold manySide
  simp only [bind_ok_iff, Index.locate_ok_iff, and_assoc, exists_and_left, exists_eq_left]
  refine and_congr_right fun _ => and_congr_right fun _ => ?_
  cases ix.placeOf? s.manyCollection s.manyField with
  | none => exact pure_ok_iff.trans (by simp)
  | some place =>
    have hprimary : ix.primaryOf s.oneCollection = .ok (ix.primaryUnder s.oneCollection) :=
      Index.primaryOf_ok_iff.mpr ⟨hone, rfl⟩
    show (if one = some place then _ else _) = _ ↔ _
    by_cases hsame : one = some place
    · rw [if_pos hsame, if_pos hsame.symm]
      exact pure_ok_iff
    · rw [if_neg hsame, if_neg (Ne.symm hsame), hprimary]
      unfold Value.orElse
      split <;> exact pure_ok_iff

/-- **The links of a relation can be told** if its sides can be looked up, and
then they are those that it addresses fields with. -/
theorem linksOf_ok_iff_traceable {ls : List (FieldPlace × Link)} :
    linksOf ix r = .ok ls ↔ (∀ s ∈ r.sides, s.Traceable ix) ∧ ls = r.addressed ix := by
  cases hs : r.sides with
  | none =>
    rw [linksOf_of_no_sides ix hs, Relation.addressed, hs]
    simp [eq_comm]
  | some s =>
    have hplaces : ((ix.placeOf? s.oneCollection s.oneField).map fun place =>
        (place, Link.mk .many s.manyCollection (ix.primaryUnder s.manyCollection))).map Prod.fst
          = ix.placeOf? s.oneCollection s.oneField := by
      rw [Option.map_map]
      exact Option.map_id_apply
    rw [linksOf_ok_iff hs, Relation.addressed, hs]
    constructor
    · rintro ⟨one, many, hone, hmany, rfl⟩
      obtain ⟨hcollection, hfield, -, rfl⟩ := oneSide_ok_iff_placeOf.mp hone
      rw [hplaces] at hmany
      obtain ⟨hcollection', hfield', rfl⟩ := (manySide_ok_iff_placeOf hcollection).mp hmany
      refine ⟨fun _ h => Option.some.inj h ▸ ⟨hcollection, hfield, hcollection', hfield'⟩, ?_⟩
      refine congrArg (_ ++ ·) ?_
      split <;> rfl
    · rintro ⟨h, rfl⟩
      have h := h s rfl
      refine ⟨_, _, oneSide_ok_iff_placeOf.mpr
          ⟨h.oneCollection, h.oneField, fun _ => h.manyCollection, rfl⟩,
        (manySide_ok_iff_placeOf h.oneCollection).mpr ⟨h.manyCollection, h.manyField, rfl⟩, ?_⟩
      rw [hplaces]
      refine congrArg (_ ++ ·) ?_
      split <;> rfl

/-- Resolving comes to its end exactly if everything can be looked up. -/
theorem fault_resolve_iff_traceable {rs : List Relation} :
    (resolve ix rs).fault = none ↔ ∀ r ∈ rs, ∀ s ∈ r.sides, s.Traceable ix := by
  simp only [fault_resolve_iff, linksOf_ok_iff_traceable, exists_and_left, exists_eq, and_true]

/-- Only what linking asks of an index decides what can be looked up, and what is
addressed. -/
theorem traceable_congr (hframe : ix.frame = ix'.frame) (h : ∀ s ∈ r.sides, s.Traceable ix) :
    (∀ s ∈ r.sides, s.Traceable ix') ∧ r.addressed ix = r.addressed ix' := by
  have hlinks := linksOf_ok_iff_traceable.mpr ⟨h, rfl⟩
  rw [linksOf_eq_of_frame hframe] at hlinks
  exact linksOf_ok_iff_traceable.mp hlinks

end Linking

/-! ## A run -/

attribute [ext] Linking

namespace Linking

variable {ix : Index} {w : Linking} {r : Relation}

theorem links_put (w : Linking) (side : Option (FieldPlace × Link)) :
    (w.put side).links = w.links + side.toList.length := by
  cases side <;> rfl

/-- **One relation more** puts on the links that it addresses fields with, counts
them, and is complained about if it has no sides. -/
theorem link_eq (hw : w.fault = none) (h : ∀ s ∈ r.sides, s.Traceable w.index) :
    w.link r = ⟨w.index.attachAll (r.addressed w.index), w.links + (r.addressed w.index).length,
      w.warnings ++ (if r.sides.isNone then [r.complaint] else []), none⟩ := by
  cases hs : r.sides with
  | none =>
    rw [link_of_no_sides hw hs, Relation.addressed, hs, hw]
    rfl
  | some s =>
    obtain ⟨one, many, hone, hmany, hls⟩ :=
      (linksOf_ok_iff hs).mp (linksOf_ok_iff_traceable.mpr ⟨h, rfl⟩)
    rw [link_of_sides hw hs, linkSides_of_ok hone hmany, hls]
    ext1
    case index => rw [index_put_eq_attachAll, index_put_eq_attachAll, Index.attachAll_append]
    case links => rw [links_put, links_put, List.length_append, Nat.add_assoc]
    case warnings => rw [warnings_put, warnings_put]; exact (List.append_nil _).symm
    case fault => rw [fault_put, fault_put, hw]

/-- **A run of relations** does what each of them does, one after the other. -/
theorem foldl_link_eq {rs : List Relation} (h : ∀ r ∈ rs, ∀ s ∈ r.sides, s.Traceable ix)
    (hw : w.fault = none) (hframe : ix.frame = w.index.frame) :
    rs.foldl link w = ⟨w.index.attachAll (rs.flatMap (Relation.addressed ix)),
      w.links + (rs.flatMap (Relation.addressed ix)).length,
      w.warnings ++ (rs.filter fun r => r.sides.isNone).map Relation.complaint, none⟩ := by
  induction rs generalizing w with
  | nil =>
    show w = ⟨w.index, w.links, w.warnings ++ [], none⟩
    rw [List.append_nil, ← hw]
  | cons r rs ih =>
    obtain ⟨hr, hrest⟩ := List.forall_mem_cons.mp h
    obtain ⟨htraceable, hsame⟩ := traceable_congr hframe hr
    -- links leave what relations ask of an index as it is
    rw [List.foldl_cons, link_eq hw htraceable, ← hsame, ih hrest rfl
      (hframe.trans (Index.frame_attachAll _ _).symm), List.flatMap_cons, Index.attachAll_append,
      List.length_append, Nat.add_assoc, List.append_assoc, List.filter_cons]
    congr 2
    split <;> rfl

end Linking

/-! ## The result -/

theorem Field.withLink?_withLink? (f : Field) (l : Option Link) :
    (f.withLink? l).withLink? l = f.withLink? l := by
  cases l <;> rfl

/-- The last links put on once more make no difference. -/
theorem Index.linked_linked (ix : Index) (ls : List (FieldPlace × Link)) :
    (ix.linked ls).linked ls = ix.linked ls := by
  unfold linked
  rw [Table.mapEntries_mapEntries]
  refine congrArg (ix.mapEntries ·) (funext fun key => funext fun c => ?_)
  refine congrArg (fun t => ({ c with fields := t } : Collection)) ?_
  show (c.fields.mapEntries fun k f => f.withLink? (Table.lastOf (key, k) ls)).mapEntries
    (fun k f => f.withLink? (Table.lastOf (key, k) ls)) = _
  rw [Table.mapEntries_mapEntries]
  simp only [Field.withLink?_withLink?]

namespace Linking

/-- **What relations make of an index** with whatever links are on its fields:
what each field ends up with, how many links there were to put on, and whom a
warning tells of. -/
structure Resolves (ix : Index) (rs : List Relation) (w : Linking) : Prop where
  /-- Every field has the last link that a relation addresses it with, or the one
  it had. Nothing else changes. -/
  index_eq : w.index = ix.linked (rs.flatMap (Relation.addressed ix))
  /-- Every side that has a field counts. -/
  links_eq : w.links = (rs.flatMap (Relation.addressed ix)).length
  /-- One warning for each relation without sides, in their order. -/
  warnings_eq : w.warnings = (rs.filter fun r => r.sides.isNone).map Relation.complaint
  /-- Nothing stops the work. -/
  completed : w.fault = none

theorem resolves_resolve {ix : Index} {rs : List Relation}
    (h : ∀ r ∈ rs, ∀ s ∈ r.sides, s.Traceable ix) : Resolves ix rs (resolve ix rs) := by
  unfold resolve
  rw [foldl_link_eq h rfl rfl, Index.attachAll_eq_linked]
  exact ⟨rfl, Nat.zero_add _, rfl, rfl⟩

/-- **Resolving is exact.** It comes to its end exactly if everything that it looks up
can be. Whatever relations there are, each field then has the link of the last one that
addresses it, nothing else changes, and links and warnings are counted and told as they
come. Resolving the same relations again makes no difference. -/
theorem resolve_is_exact (ix : Index) (rs : List Relation) :
    ((resolve ix rs).fault = none ↔ ∀ r ∈ rs, ∀ s ∈ r.sides, s.Traceable ix)
      ∧ ((resolve ix rs).fault = none → Resolves ix rs (resolve ix rs)
          ∧ resolve (resolve ix rs).index rs = resolve ix rs) := by
  refine ⟨fault_resolve_iff_traceable, fun hfault => ?_⟩
  have h := fault_resolve_iff_traceable.mp hfault
  have hfirst := resolves_resolve h
  refine ⟨hfirst, ?_⟩
  have hframe : ix.frame = (resolve ix rs).index.frame := by
    rw [hfirst.index_eq, ← Index.attachAll_eq_linked, Index.frame_attachAll]
  have hagain := resolves_resolve fun r hr => (traceable_congr hframe (h r hr)).1
  have hsame : rs.flatMap (Relation.addressed (resolve ix rs).index)
      = rs.flatMap (Relation.addressed ix) :=
    List.flatMap_congr fun r hr => (traceable_congr hframe (h r hr)).2.symm
  ext1
  case index => rw [hagain.index_eq, hsame, hfirst.index_eq, Index.linked_linked]
  case links => rw [hagain.links_eq, hsame, hfirst.links_eq]
  case warnings => rw [hagain.warnings_eq, hfirst.warnings_eq]
  case fault => rw [hagain.completed, hfirst.completed]

end Linking

/-! ### A shelf of books -/

/-- Books and authors; a link to an author is there already. -/
def Index.shelf : Index :=
  (Table.empty.insert (.text "books")
    { name := .text "books"
      primary := .text "isbn"
      fields := ((Table.empty.insert (.text "author")
          { name := .text "author", type := .string
            relation := some ⟨.one, .text "people", .text "id"⟩ }).insert (.text "sequel")
          { name := .text "sequel", type := .string }) }).insert (.text "authors")
    { name := .text "authors"
      fields := Table.empty.insert (.text "books") { name := .text "books", type := .unknown } }

/-- A relation with both sides, one without sides, one of a field with itself, and
one whose one side is not there. -/
def Relation.onShelf : List Relation :=
  [⟨.text "author", .text "books", some ⟨.text "authors", .text "books", .text "books",
      .text "author"⟩, .null, .null⟩,
    ⟨.text "author", .text "books", none, .null, .null⟩,
    ⟨.text "sequel", .text "books", some ⟨.text "books", .text "sequel", .text "books",
      .text "sequel"⟩, .null, .text "next"⟩,
    ⟨.text "author", .text "books", some ⟨.text "people", .null, .text "books", .text "author"⟩,
      .null, .text "person"⟩]

/-- On the shelf four sides have a field, and the last relation of the author's field
is the one that counts. -/
theorem shelf_is_resolved :
    (Linking.resolve Index.shelf Relation.onShelf).fault = none
      ∧ Linking.Resolves Index.shelf Relation.onShelf
          (Linking.resolve Index.shelf Relation.onShelf)
      ∧ Linking.resolve (Linking.resolve Index.shelf Relation.onShelf).index Relation.onShelf
          = Linking.resolve Index.shelf Relation.onShelf
      ∧ (Linking.resolve Index.shelf Relation.onShelf).links = 4 := by
  have hexact := Linking.resolve_is_exact Index.shelf Relation.onShelf
  have hfault := hexact.1.mpr (by decide +kernel)
  obtain ⟨hresolves, hagain⟩ := hexact.2 hfault
  exact ⟨hfault, hresolves, hagain, by decide +kernel⟩

end CollectionTypes
