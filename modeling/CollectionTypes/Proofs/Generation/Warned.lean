import CollectionTypes.Proofs.Generation.Making

/-!
# What a run warns of

The stages of a run write down what they do, but none of them warns of
anything (`Traced.Quiet`), apart from two: linking has its warnings about
relations, which a run notes only if it is told to, and viewing warns of
collections whose types have one name. So these are all the warnings in the
journal of a run (`Making.warned_iff`).
-/

namespace CollectionTypes

open Outcome

/-! ## Journals without warnings -/

namespace Traced

variable {ε α β : Type}

/-- **Nothing is warned of.** -/
def Quiet (x : Traced ε α) : Prop :=
  ∀ e ∈ x.journal, e.level ≠ .warning

theorem quiet_pure (a : α) : (pure a : Traced ε α).Quiet :=
  fun _ he => absurd he List.not_mem_nil

theorem quiet_silent (x : Except ε α) : (silent x).Quiet :=
  fun _ he => absurd he List.not_mem_nil

theorem quiet_debug (text : String) : (note .debug text : Traced ε Unit).Quiet := by
  intro e he
  rw [List.mem_singleton.mp he]
  exact Level.noConfusion

/-- **What two computations write down** is what the first does, and what the
second does if it comes to it. -/
theorem mem_journal_bind {x : Traced ε α} {f : α → Traced ε β} {e : Entry} :
    e ∈ (x >>= f).journal
      ↔ e ∈ x.journal ∨ ∃ a, x.outcome = .ok a ∧ e ∈ (f a).journal := by
  cases h : x.outcome with
  | ok a =>
    rw [journal_bind_ok h, List.mem_append]
    refine or_congr_right ⟨fun he => ⟨a, rfl, he⟩, ?_⟩
    rintro ⟨a', ha, he⟩
    rwa [Except.ok.inj ha]
  | error m =>
    rw [journal_bind_error h]
    refine ⟨.inl, ?_⟩
    rintro (he | ⟨a, ha, -⟩)
    · exact he
    · cases ha

theorem Quiet.bind {x : Traced ε α} {f : α → Traced ε β} (hx : x.Quiet)
    (hf : ∀ a, (f a).Quiet) : (x >>= f).Quiet := by
  intro e he
  rcases mem_journal_bind.mp he with he | ⟨a, -, he⟩
  · exact hx e he
  · exact hf a e he

/-- What warns of nothing can be left out behind a computation. -/
theorem warned_bind_iff {x : Traced ε α} {f : α → Traced ε β} (hf : ∀ a, (f a).Quiet)
    {t : String} : ⟨.warning, t⟩ ∈ (x >>= f).journal ↔ ⟨.warning, t⟩ ∈ x.journal := by
  rw [mem_journal_bind]
  refine ⟨?_, .inl⟩
  rintro (he | ⟨a, -, he⟩)
  · exact he
  · exact absurd rfl (hf a _ he)

/-- What warns of nothing and ends well can be left out before one. -/
theorem warned_bind_of_ok {x : Traced ε α} {f : α → Traced ε β} (hx : x.Quiet) {a : α}
    (h : x.outcome = .ok a) {t : String} :
    ⟨.warning, t⟩ ∈ (x >>= f).journal ↔ ⟨.warning, t⟩ ∈ (f a).journal := by
  rw [journal_bind_ok h, List.mem_append]
  exact or_iff_right fun he => hx _ he rfl

/-- Steps that warn of nothing make a run that warns of nothing. -/
theorem quiet_foldlM {f : β → α → Traced ε β} (h : ∀ b a, (f b a).Quiet) (as : List α)
    (b : β) : (as.foldlM f b).Quiet := by
  induction as generalizing b with
  | nil => exact quiet_pure b
  | cons a as ih =>
    rw [List.foldlM_cons]
    exact (h b a).bind ih

end Traced

open Traced

/-! ## The stages -/

namespace Index

variable (mark : Value) (flags : Flags)

theorem quiet_addEntry (detached : Table Key Detached) (ix : Index) (v : Value) :
    (addEntry mark flags detached ix v).Quiet := by
  unfold addEntry
  split
  · exact quiet_pure ix
  · exact (quiet_debug _).bind fun _ => quiet_pure ix
  · exact (quiet_debug _).bind fun _ => quiet_pure ix
  · exact quiet_silent _

theorem quiet_addUnlisted (ix : Index) (d : Detached) :
    (addUnlisted mark flags ix d).Quiet := by
  unfold addUnlisted
  split
  · exact quiet_pure ix
  · refine (quiet_silent _).bind fun isHost => ?_
    split
    · exact (quiet_debug _).bind fun _ => (quiet_silent _).bind fun _ => quiet_pure _
    · exact quiet_pure ix

/-- **Indexing warns of nothing.** -/
theorem quiet_ofSchema (schema : Value) : (ofSchema mark flags schema).Quiet := by
  unfold ofSchema
  split
  · exact quiet_pure _
  · unfold ofMembers
    refine (quiet_silent _).bind fun detached => ?_
    refine (quiet_foldlM (quiet_addEntry mark flags detached) _ _).bind fun listed => ?_
    refine (quiet_foldlM (quiet_addUnlisted mark flags) _ _).bind fun ix => ?_
    exact (quiet_debug _).bind fun _ => quiet_pure ix

end Index

theorem Run.quiet_index (s : Settings) (schema records : Value) :
    (Run.index s schema records).Quiet :=
  (quiet_silent _).bind fun flags => Index.quiet_ofSchema _ flags schema

namespace View

variable (s : Settings)

theorem quiet_ofCollection? (c : Collection) : (ofCollection? s c).Quiet := by
  unfold ofCollection?
  split
  · split
    · exact (quiet_silent _).bind fun _ => quiet_pure _
    · exact quiet_silent _
  · split
    · split
      · exact (quiet_silent _).bind fun _ => quiet_pure _
      · exact quiet_silent _
    · exact (quiet_debug _).bind fun _ => quiet_pure _

theorem quiet_ofCollections (cs : List Collection) : (ofCollections s cs).Quiet := by
  induction cs with
  | nil => exact quiet_pure _
  | cons c cs ih =>
    exact (quiet_ofCollection? s c).bind fun _ => ih.bind fun _ => quiet_pure _

/-- **Viewing warns of collisions** and of nothing else. -/
theorem warned_ofIndex_iff {ix : Index} {views : List View}
    (h : (ofIndex s ix).outcome = .ok views) {t : String} :
    ⟨.warning, t⟩ ∈ (ofIndex s ix).journal ↔ t ∈ collisions views := by
  unfold ofIndex at h ⊢
  rw [outcome_bind] at h
  obtain ⟨vs, hvs, h⟩ := bind_ok_iff.mp h
  obtain rfl : vs = views := Except.ok.inj h
  rw [warned_bind_of_ok (quiet_ofCollections s _) hvs, warned_bind_iff fun _ => quiet_pure vs]
  show _ ∈ (collisions vs).map _ ↔ _
  rw [List.mem_map]
  constructor
  · rintro ⟨t', ht', hsame⟩
    obtain ⟨-, rfl⟩ := Entry.mk.inj hsame
    exact ht'
  · intro ht
    exact ⟨t, ht, rfl⟩

end View

/-- Nothing is added to the warnings when the document is put together. -/
theorem Document.warned_textOfIndex_iff {s : Settings} {ix : Index} {views : List View}
    (h : (View.ofIndex s ix).outcome = .ok views) {t : String} :
    ⟨.warning, t⟩ ∈ (textOfIndex s ix).journal ↔ t ∈ View.collisions views := by
  unfold textOfIndex ofIndex
  rw [← View.warned_ofIndex_iff s h, warned_bind_iff fun _ => quiet_pure _, warned_bind_iff]
  · exact Iff.rfl
  · intro vs
    refine (quiet_silent _).bind fun d => (quiet_silent _).bind fun l => ?_
    exact (quiet_debug _).bind fun _ => quiet_pure _

/-! ## Warnings about relations -/

namespace Linking

theorem warnings_linkSides (w : Linking) (r : Relation) (s : Sides) :
    (w.linkSides r s).warnings = w.warnings := by
  unfold linkSides
  split
  · rfl
  · dsimp only
    split
    · exact warnings_put w _
    · rw [warnings_put, warnings_put]

/-- **Linking warns of relations** without sides, and of nothing else. -/
theorem complaint_of_mem_warnings {ix : Index} {rs : List Relation} {t : String}
    (h : t ∈ (resolve ix rs).warnings) : ∃ r ∈ rs, t = r.complaint := by
  have hrun : ∀ {rs : List Relation} {w : Linking}, t ∈ (rs.foldl link w).warnings →
      t ∈ w.warnings ∨ ∃ r ∈ rs, t = r.complaint := by
    intro rs
    induction rs with
    | nil => exact .inl
    | cons r rs ih =>
      intro w ht
      rcases ih ht with ht | ⟨r', hr', ht⟩
      · unfold link at ht
        split at ht
        · exact .inl ht
        · split at ht
          · rcases List.mem_append.mp ht with ht | ht
            · exact .inl ht
            · exact .inr ⟨r, List.mem_cons_self, List.mem_singleton.mp ht⟩
          · rw [warnings_linkSides] at ht
            exact .inl ht
      · exact .inr ⟨r', List.mem_cons_of_mem r hr', ht⟩
  rcases hrun h with ht | hr
  · cases ht
  · exact hr

end Linking

/-! ## Whole runs -/

/-- **What a run warns of**: that collections have types of one name, and
what there is to say about relations, if it is told to note that. -/
theorem Making.warned_iff {s : Settings} {schema records : Value}
    (m : Making s schema records) (noted : Bool) {t : String} :
    ⟨.warning, t⟩ ∈ (Run.ofSchema noted s schema records).journal
      ↔ t ∈ View.collisions m.views
        ∨ noted = true ∧ t ∈ (Linking.resolve m.indexed m.relations).warnings := by
  unfold Run.ofSchema Run.ofLinking
  simp only [m.indexed_ok, m.relations_ok, m.linked_ok]
  rw [List.mem_append, List.mem_append, List.mem_append]
  have hindex : (⟨.warning, t⟩ : Entry) ∉ (Run.index s schema records).journal :=
    fun he => Run.quiet_index s schema records _ he rfl
  have hclosing : (⟨.warning, t⟩ : Entry) ∉ (Linking.resolve m.indexed m.relations).closing := by
    unfold Linking.closing
    rw [m.linked_ok]
    exact fun he => quiet_debug (ε := Misuse) _ _ he rfl
  have hnoted : (⟨.warning, t⟩ : Entry)
        ∈ (if noted then Run.warningEntries (Linking.resolve m.indexed m.relations).warnings
            else [])
      ↔ noted = true ∧ t ∈ (Linking.resolve m.indexed m.relations).warnings := by
    cases noted
    · simp
    · simp [Run.warningEntries]
  have hdocument := Document.warned_textOfIndex_iff m.views_ok (t := t)
  rw [hnoted]
  constructor
  · rintro (((he | he) | he) | he)
    · exact absurd he hindex
    · exact .inr he
    · exact absurd he hclosing
    · exact .inl (hdocument.mp he)
  · rintro (he | he)
    · exact .inr (hdocument.mpr he)
    · exact .inl (.inl (.inr he))

end CollectionTypes
