import CollectionTypes.Proofs.Generation.Members
import CollectionTypes.Proofs.Generation.Outlined
import CollectionTypes.Proofs.Schema.LastLink

/-!
# Both sides of a relation in a document

The field on the one side of a relation becomes a member for many items of
the collection on the many side, by the primary key of that collection; and
the field on the many side becomes a member for one item, by the key of the
relation if it names one. What a side is called is all that matters: an item
of a collection that is not indexed is known by `id`, and one of a collection
without a name is not known at all.

This holds of a field if no later relation addresses it
(`relation_sides_are_written`). The link of the relation is then the last one
on the field, and the one member of the field is written by its link alone.
-/

namespace CollectionTypes

open Outcome Linking

/-! ## The last link on a field -/

namespace Making

variable {s : Settings} {schema records : Value} (m : Making s schema records)

theorem frame_index : m.index.frame = m.indexed.frame := by
  unfold index
  rw [index_resolve m.linked_ok, Index.frame_linked]

/-- The links of every relation can be told, also from the index with its
links. -/
theorem linksOf_ok {r : Relation} (hr : r ∈ m.relations) : ∃ ls, linksOf m.index r = .ok ls := by
  rw [linksOf_eq_of_frame m.frame_index]
  exact fault_resolve_iff.mp m.linked_ok r hr

/-- The links that all relations put on fields, one after the other. -/
def links : List (FieldPlace × Link) :=
  m.relations.flatMap (Relation.linksOn m.index)

theorem index_eq_linked : m.index = m.indexed.linked m.links := by
  have hlinks : Relation.linksOn m.index = Relation.linksOn m.indexed := by
    unfold Relation.linksOn
    rw [linksOf_eq_of_frame m.frame_index]
  unfold links
  rw [hlinks]
  exact index_resolve m.linked_ok

/-- **A field has the last link** that a relation puts on it. -/
theorem relation_of_lastOf {place : FieldPlace} {l : Link}
    (hl : Table.lastOf place m.links = some l) {f : Field}
    (hf : m.index.fieldAt? place = some f) : f.relation = some l := by
  rw [m.index_eq_linked] at hf
  exact Index.relation_of_lastOf hl hf

/-! ## How the member of a field is written -/

/-- **The field at a place is written** as a text that passes: if the field is
a member, and no primary key, its one member is of such a type, or of this
type or `null` if the field may be empty. -/
def WritesAt (place : FieldPlace) (passes : String → Prop) : Prop :=
  ∀ c f, m.index.find? place.1 = some c → c.fields.find? place.2 = some f →
    c.isShown = true → f ∈ c.shownFields → f.name.means c.primary = false →
      ∃ member text, (∀ x, m.IsMember c f x ↔ x = member) ∧ passes text
        ∧ member.type = if f.nullable then text ++ " | null" else text

/-- A field with a link is written as the link is. -/
theorem writesAt_of_lastOf {place : FieldPlace} {l : Link}
    (hl : Table.lastOf place m.links = some l) {passes : String → Prop}
    (hpasses : ∀ item, l.WritesItem s item →
      passes (match l.direction with | .one => item | .many => .array item : TypeExpr).text) :
    m.WritesAt place passes := by
  intro c f hc hf hshown hmember hkey
  have hrelation : f.relation = some l := by
    refine m.relation_of_lastOf hl ?_
    unfold Index.fieldAt?
    rw [hc]
    exact hf
  obtain ⟨member, t, hunique, ht, htype⟩ := m.exists_member hc hshown hmember
  obtain ⟨t', ht', rfl⟩ := Field.exists_memberType_of_link hkey hrelation ht
  obtain ⟨item, hitem, hexpr⟩ := Link.writesItem_of_memberType ht'
  refine ⟨member, t'.expr.text, hunique, hexpr ▸ hpasses item hitem, ?_⟩
  rw [htype, MemberType.text_orNull]

end Making

/-! ## Both sides -/

/-- **One item in writing**: a reference by a key of the collection, or
`unknown` where no collection is named. -/
def WritesOne (s : Settings) (related : Value) (key : String → Value) (text : String) : Prop :=
  (related.truthy = false ∧ text = "unknown")
    ∨ ∃ name, related = .text name ∧ name ≠ ""
        ∧ text = TypeExpr.itemText (Link.targetName s name) (key name).shown

/-- **Many items in writing.** -/
def WritesMany (s : Settings) (related : Value) (key : String → Value) (text : String) : Prop :=
  (related.truthy = false ∧ text = "unknown[]")
    ∨ ∃ name, related = .text name ∧ name ≠ ""
        ∧ text = "(" ++ TypeExpr.itemText (Link.targetName s name) (key name).shown ++ ")[]"

/-- The primary key of a collection called that; `id` if there is none. -/
def Index.keyOf (ix : Index) (name : String) : Value :=
  ((ix.find? (.text name)).map Collection.primary).getD defaultPrimary

theorem Index.primaryOf_text (ix : Index) {name : String} (hname : name ≠ "") :
    ix.primaryOf (.text name) = .ok (ix.keyOf name) := by
  unfold primaryOf keyOf
  rw [collection?_of_name ix (Name.ofPresent_text hname)]
  show _ = Except.ok (((ix.find? (Name.text name).key).map _).getD _)
  cases ix.find? (Name.text name).key <;> rfl

namespace Making

variable {s : Settings} {schema records : Value} {m : Making s schema records}
  {before after : List Relation} {r : Relation} {sides : Sides} {place : FieldPlace}

/-- **The field of the one side** is written as many items of the collection
on the many side. -/
theorem writesAt_oneSide (hr : m.relations = before ++ r :: after) (hs : r.sides = some sides)
    (hplace : m.index.locate sides.oneCollection sides.oneField = .ok (some place))
    (hafter : ∀ r' ∈ after, ¬ r'.Addresses m.index place) :
    m.WritesAt place (WritesMany s sides.manyCollection m.index.keyOf) := by
  obtain ⟨ls, hls⟩ := m.linksOf_ok (hr ▸ List.mem_append_right _ List.mem_cons_self)
  obtain ⟨key, hkey, hlast⟩ := Relation.lastOf_linksOn_of_oneSide hs hls hplace
  have hlinks := Relation.lastOf_flatMap_linksOn hlast before hafter
  rw [← hr] at hlinks
  refine m.writesAt_of_lastOf hlinks fun item hitem => ?_
  rcases hitem with ⟨hnone, rfl⟩ | ⟨name, hname, hne, rfl⟩
  · exact .inl ⟨hnone, rfl⟩
  · refine .inr ⟨name, hname, hne, ?_⟩
    replace hname : sides.manyCollection = .text name := hname
    rw [hname, m.index.primaryOf_text hne] at hkey
    rw [TypeExpr.text_array_reference, ← Except.ok.inj hkey]

/-- The key that the many side of a relation goes by, if the collection on the
one side is called that. -/
def manyKeyOf (m : Making s schema records) (r : Relation) (name : String) : Value :=
  if r.foreignKey.truthy then r.foreignKey else m.index.keyOf name

/-- **The field of the many side** is written as one item of the collection on
the one side. -/
theorem writesAt_manySide (hr : m.relations = before ++ r :: after) (hs : r.sides = some sides)
    (hplace : m.index.locate sides.manyCollection sides.manyField = .ok (some place))
    (hother : m.index.locate sides.oneCollection sides.oneField ≠ .ok (some place))
    (hafter : ∀ r' ∈ after, ¬ r'.Addresses m.index place) :
    m.WritesAt place (WritesOne s sides.oneCollection (m.manyKeyOf r)) := by
  obtain ⟨ls, hls⟩ := m.linksOf_ok (hr ▸ List.mem_append_right _ List.mem_cons_self)
  obtain ⟨key, hkey, hlast⟩ := Relation.lastOf_linksOn_of_manySide hs hls hplace hother
  have hlinks := Relation.lastOf_flatMap_linksOn hlast before hafter
  rw [← hr] at hlinks
  refine m.writesAt_of_lastOf hlinks fun item hitem => ?_
  rcases hitem with ⟨hnone, rfl⟩ | ⟨name, hname, hne, rfl⟩
  · exact .inl ⟨hnone, rfl⟩
  · refine .inr ⟨name, hname, hne, ?_⟩
    replace hname : sides.oneCollection = .text name := hname
    unfold manyKey at hkey
    rw [hname, m.index.primaryOf_text hne] at hkey
    have hsame : m.manyKeyOf r name = key := by
      unfold manyKeyOf
      split
      · next hown => rw [if_pos hown] at hkey; exact Except.ok.inj hkey
      · next hown => rw [if_neg hown] at hkey; exact Except.ok.inj hkey
    rw [hsame]
    exact TypeExpr.text_reference _ _

end Making

/-- **Both sides of a relation are written by it.** Let a relation have sides,
and let no later relation address a field of it. If the field is that of the
one side, its member is for many items of the collection on the many side, by
the primary key of that collection. If it is that of the many side, and not of
the one side as well, its member is for one item of the collection on the one
side, by the key of the relation or else by the primary key of that
collection. -/
theorem relation_sides_are_written {noted : Bool} {schema records : Value} {options : Options}
    {s : Settings} {text : String} (hs : options.settings = .ok s)
    (h : (buildDocument noted schema options records).text = .ok text) :
    ∃ m : Making s schema records, text = m.document.text m.layout
      ∧ ∀ before r after sides, m.relations = before ++ r :: after → r.sides = some sides →
          ∀ place, (∀ r' ∈ after, ¬ r'.Addresses m.index place) →
            (m.index.locate sides.oneCollection sides.oneField = .ok (some place) →
              m.WritesAt place (WritesMany s sides.manyCollection m.index.keyOf))
            ∧ (m.index.locate sides.manyCollection sides.manyField = .ok (some place) →
                m.index.locate sides.oneCollection sides.oneField ≠ .ok (some place) →
                  m.WritesAt place (WritesOne s sides.oneCollection (m.manyKeyOf r))) := by
  obtain ⟨m, rfl⟩ := (buildDocument_ok_iff hs).mp h
  refine ⟨m, rfl, fun before r after sides hr hsides place hafter => ⟨?_, ?_⟩⟩
  · exact fun hplace => Making.writesAt_oneSide hr hsides hplace hafter
  · exact fun hplace hother => Making.writesAt_manySide hr hsides hplace hother hafter

/-- A field of a collection is a member of that type, and no other member is
its. -/
def Making.HasMember {s : Settings} {schema records : Value} (m : Making s schema records)
    (collection field type : String) : Prop :=
  ∃ c f member, m.index.find? (.text collection) = some c ∧ c.fields.find? (.text field) = some f
    ∧ (∀ x, m.IsMember c f x ↔ x = member) ∧ member.type = type

/-- Where the fields of the relations of a blog are. -/
theorem blog_places (m : Making {} Outline.blog.overview .null) :
    m.index.locate (.text "directus_users") (.text "articles")
        = .ok (some (.text "directus_users", .text "articles"))
      ∧ m.index.locate (.text "articles") (.text "author")
        = .ok (some (.text "articles", .text "author"))
      ∧ m.index.locate (.text "articles") .null = .ok none
      ∧ m.index.locate (.text "comments") (.text "article")
        = .ok (some (.text "comments", .text "article"))
      ∧ (m.index.keyOf "articles").shown = "id" := by
  have hchecked : (Making.viewsOf {} Outline.blog.overview .null).toOption.all (fun r => decide
      (r.1.locate (.text "directus_users") (.text "articles")
          = .ok (some (.text "directus_users", .text "articles"))
        ∧ r.1.locate (.text "articles") (.text "author")
          = .ok (some (.text "articles", .text "author"))
        ∧ r.1.locate (.text "articles") .null = .ok none
        ∧ r.1.locate (.text "comments") (.text "article")
          = .ok (some (.text "comments", .text "article"))
        ∧ (r.1.keyOf "articles").shown = "id")) = true := by
    decide +kernel
  rw [m.viewsOf_eq] at hchecked
  exact of_decide_eq_true hchecked

/-- The fields of the first relation of a blog are members, and no keys. -/
theorem blog_sides_shown (m : Making {} Outline.blog.overview .null) :
    ∀ e ∈ [("directus_users", "articles", false), ("articles", "author", true)],
      ∃ c f, m.index.find? (.text e.1) = some c ∧ c.fields.find? (.text e.2.1) = some f
        ∧ c.isShown = true ∧ f ∈ c.shownFields ∧ f.name.means c.primary = false
        ∧ f.nullable = e.2.2 := by
  have hchecked : (Making.viewsOf {} Outline.blog.overview .null).toOption.all (fun r =>
      [("directus_users", "articles", false), ("articles", "author", true)].all fun e =>
        (r.1.find? (.text e.1)).any fun c => (c.fields.find? (.text e.2.1)).any fun f =>
          decide (c.isShown = true ∧ (c.isSystem = true → f.system = false)
            ∧ f.name.means c.primary = false ∧ f.nullable = e.2.2)) = true := by
    decide +kernel
  rw [m.viewsOf_eq] at hchecked
  intro e he
  obtain ⟨c, hc, h⟩ := (Option.any_eq_true _ _).mp (List.all_eq_true.mp hchecked e he)
  obtain ⟨f, hf, h⟩ := (Option.any_eq_true _ _).mp h
  obtain ⟨hshown, hmember, hkey, hnullable⟩ := of_decide_eq_true h
  have hvalue : f ∈ c.fields.values := Table.mem_values_iff.mpr ⟨_, hf⟩
  exact ⟨c, f, hc, hf, hshown, Collection.mem_shownFields.mpr ⟨hvalue, hmember⟩, hkey, hnullable⟩

/-- In a blog a user of the host has articles, and an article has a user. -/
theorem blog_sides_are_written :
    Options.absent.settings = .ok {}
      ∧ ∃ text, (buildDocument false Outline.blog.overview .absent .null).text = .ok text
        ∧ ∃ m : Making {} Outline.blog.overview .null, text = m.document.text m.layout
          ∧ m.HasMember "directus_users" "articles" "(Article['id'] | Partial<Article>)[]"
          ∧ m.HasMember "articles" "author" "User['id'] | Partial<User> | null" := by
  have hs : Options.absent.settings = .ok {} := rfl
  obtain ⟨text, htext⟩ := Outline.blog.exists_text false hs rfl
  obtain ⟨m, hm, hsides⟩ := relation_sides_are_written hs htext
  obtain ⟨hone, hmany, hnowhere, hcomment, hkey⟩ := blog_places m
  have hrelations : m.relations = Outline.blog.relations.map RelationOutline.relation :=
    Except.ok.inj (m.relations_ok.symm.trans (Outline.ofSchema_relationsValue rfl))
  have hlater : ∀ place : FieldPlace, place ≠ (.text "comments", .text "article") →
      ∀ r' ∈ (Outline.blog.relations.map RelationOutline.relation).tail,
        ¬ r'.Addresses m.index place := by
    rintro place hplace r' hr' ⟨sides, hr'sides, hlocate⟩
    rcases List.mem_cons.mp hr' with rfl | hr'
    · cases hr'sides
      rcases hlocate with hlocate | hlocate
      · cases hnowhere.symm.trans hlocate
      · exact hplace (Option.some.inj (Except.ok.inj (hlocate.symm.trans hcomment)))
    · rw [List.mem_singleton.mp hr'] at hr'sides
      cases hr'sides
  refine ⟨hs, text, htext, m, hm, ?_, ?_⟩
  · obtain ⟨c, f, hc, hf, hshown, hmember, hnokey, hnullable⟩ :=
      blog_sides_shown m ("directus_users", "articles", false) List.mem_cons_self
    have hwritten := (hsides [] _ _ _ hrelations rfl _ (hlater _ (by decide))).1 hone
    obtain ⟨member, text, hunique, htext, htype⟩ := hwritten c f hc hf hshown hmember hnokey
    refine ⟨c, f, member, hc, hf, hunique, ?_⟩
    rcases htext with ⟨hnone, -⟩ | ⟨name, hname, -, rfl⟩
    · cases hnone
    · cases hname
      rw [htype, hnullable, hkey]
      decide +kernel
  · obtain ⟨c, f, hc, hf, hshown, hmember, hnokey, hnullable⟩ :=
      blog_sides_shown m ("articles", "author", true) (List.mem_cons_of_mem _ List.mem_cons_self)
    have hwritten := (hsides [] _ _ _ hrelations rfl _ (hlater _ (by decide))).2 hmany
      (fun hsame => absurd (hone.symm.trans hsame) (by decide))
    obtain ⟨member, text, hunique, htext, htype⟩ := hwritten c f hc hf hshown hmember hnokey
    refine ⟨c, f, member, hc, hf, hunique, ?_⟩
    rcases htext with ⟨hnone, -⟩ | ⟨name, hname, -, rfl⟩
    · cases hnone
    · cases hname
      -- the relation names its key
      rw [htype, hnullable, Making.manyKeyOf, if_pos rfl, if_pos (by decide)]
      decide +kernel

end CollectionTypes
