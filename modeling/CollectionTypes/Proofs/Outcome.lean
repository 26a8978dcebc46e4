import Mathlib.Data.List.Forall2

/-!
# Computations that end well

A chain of computations that may fail ends well exactly where each of them
does, each going on from what the one before gave. `bind_ok_iff` says so for
two computations, and `mapM_ok_iff` for one computation on every element of
a list: the results stand beside the elements, one for each. A run of steps
that each take what one element gives is a fold over what the elements give
(`foldlM_given_iff`).

Where a computation may fail, `FailsOnly` says in which ways; of two computations
it holds exactly where it holds of each (`failsOnly_bind_iff`).
-/

namespace CollectionTypes.Outcome

variable {ε ε' α β : Type}

/-- Going on from what is given. -/
theorem ok_bind (a : α) (f : α → Except ε β) : (.ok a : Except ε α) >>= f = f a := rfl

/-- **Two computations end well one behind the other** exactly where both do. -/
theorem bind_ok_iff {x : Except ε α} {f : α → Except ε β} {b : β} :
    x >>= f = .ok b ↔ ∃ a, x = .ok a ∧ f a = .ok b := by
  cases x with
  | ok a =>
    constructor
    · intro h
      exact ⟨a, rfl, h⟩
    · rintro ⟨a', h, hf⟩
      rw [← Except.ok.inj h] at hf
      exact hf
  | error e =>
    constructor
    · intro h
      cases h
    · rintro ⟨a', h, _⟩
      cases h

/-- Two computations go wrong one behind the other where the first does, or the second on
what the first gave. -/
theorem bind_error_iff {x : Except ε α} {f : α → Except ε β} {e : ε} :
    x >>= f = .error e ↔ x = .error e ∨ ∃ a, x = .ok a ∧ f a = .error e := by
  cases x <;> simp [bind, Except.bind]

theorem pure_ok_iff {a b : α} : (pure a : Except ε α) = .ok b ↔ b = a :=
  ⟨fun h => (Except.ok.inj h).symm, fun h => congrArg _ h.symm⟩

theorem map_ok_iff {x : Except ε α} {f : α → β} {b : β} :
    x.map f = .ok b ↔ ∃ a, x = .ok a ∧ f a = b := by
  cases x <;> simp [Except.map]

/-- What a failure is taken for does not matter to a success. -/
@[simp] theorem mapError_ok_iff {f : ε → ε'} {x : Except ε α} {a : α} :
    x.mapError f = .ok a ↔ x = .ok a := by
  unfold Except.mapError
  split
  · constructor <;> intro h <;> cases h
  · rw [Except.ok.injEq, Except.ok.injEq]

/-! ## Failing in certain ways only -/

section FailsOnly

variable {P : ε → Prop}

/-- **Nothing goes wrong** but in certain ways. -/
def FailsOnly (P : ε → Prop) (x : Except ε α) : Prop :=
  ∀ e, x = .error e → P e

@[simp] theorem failsOnly_ok (P : ε → Prop) (a : α) : FailsOnly P (.ok a) :=
  fun _ h => nomatch h

@[simp] theorem failsOnly_pure (P : ε → Prop) (a : α) : FailsOnly P (pure a) :=
  failsOnly_ok P a

@[simp] theorem failsOnly_error_iff {e : ε} : FailsOnly P (.error e : Except ε α) ↔ P e :=
  ⟨fun h => h e rfl, fun h _ he => Except.error.inj he ▸ h⟩

/-- Failures that are always of these ways. -/
theorem failsOnly_of_forall (h : ∀ e, P e) (x : Except ε α) : FailsOnly P x :=
  fun e _ => h e

theorem failsOnly_bind_iff {x : Except ε α} {f : α → Except ε β} :
    FailsOnly P (x >>= f) ↔ FailsOnly P x ∧ ∀ a, x = .ok a → FailsOnly P (f a) := by
  cases x with
  | error e => simp [failsOnly_error_iff, bind, Except.bind]
  | ok a => simp [bind, Except.bind]

@[simp] theorem failsOnly_map_iff {x : Except ε α} {f : α → β} :
    FailsOnly P (x.map f) ↔ FailsOnly P x := by
  cases x <;> simp [Except.map]

@[simp] theorem failsOnly_mapError_iff {P : ε' → Prop} {f : ε → ε'} {x : Except ε α} :
    FailsOnly P (x.mapError f) ↔ FailsOnly (fun e => P (f e)) x := by
  cases x <;> simp [Except.mapError]

end FailsOnly

/-! ## On every element of a list -/

/-- **A computation ends well on every element of a list** exactly where its
results stand beside the elements, one for each. -/
theorem mapM_ok_iff {f : α → Except ε β} {as : List α} {bs : List β} :
    as.mapM f = .ok bs ↔ List.Forall₂ (fun a b => f a = .ok b) as bs := by
  induction as generalizing bs with
  | nil =>
    rw [List.mapM_nil, List.forall₂_nil_left_iff]
    exact ⟨fun h => (Except.ok.inj h).symm, fun h => congrArg _ h.symm⟩
  | cons a as ih =>
    rw [List.mapM_cons, List.forall₂_cons_left_iff, bind_ok_iff]
    constructor
    · rintro ⟨b, hb, h⟩
      obtain ⟨bs', hbs, h⟩ := bind_ok_iff.mp h
      exact ⟨b, bs', hb, ih.mp hbs, (Except.ok.inj h).symm⟩
    · rintro ⟨b, bs', hb, hbs, rfl⟩
      exact ⟨b, hb, bind_ok_iff.mpr ⟨bs', ih.mpr hbs, rfl⟩⟩

/-- A computation that ends well on each element ends well on the list. -/
theorem mapM_ok_of_forall {f : α → Except ε β} {as : List α}
    (h : ∀ a ∈ as, ∃ b, f a = .ok b) : ∃ bs, as.mapM f = .ok bs := by
  induction as with
  | nil => exact ⟨[], rfl⟩
  | cons a as ih =>
    obtain ⟨b, hb⟩ := h a List.mem_cons_self
    obtain ⟨bs, hbs⟩ := ih fun a ha => h a (List.mem_cons_of_mem _ ha)
    exact ⟨b :: bs, mapM_ok_iff.mpr (.cons hb (mapM_ok_iff.mp hbs))⟩

theorem forall₂_exists_right {R : α → β → Prop} {as : List α} {bs : List β}
    (h : List.Forall₂ R as bs) {a : α} (ha : a ∈ as) : ∃ b ∈ bs, R a b := by
  induction h with
  | nil => cases ha
  | cons hab _ ih =>
    rcases List.mem_cons.mp ha with rfl | ha
    · exact ⟨_, List.mem_cons_self, hab⟩
    · obtain ⟨b, hb, hR⟩ := ih ha
      exact ⟨b, List.mem_cons_of_mem _ hb, hR⟩

theorem forall₂_exists_left {R : α → β → Prop} {as : List α} {bs : List β}
    (h : List.Forall₂ R as bs) {b : β} (hb : b ∈ bs) : ∃ a ∈ as, R a b :=
  forall₂_exists_right (R := flip R) h.flip hb

/-- **Where each result tells its element**, the elements are what the results
tell, and every result is one of the element that it tells. -/
theorem forall₂_along_iff {R : α → β → Prop} {f : β → α} (hf : ∀ a b, R a b → f b = a)
    {as : List α} {bs : List β} :
    List.Forall₂ R as bs ↔ bs.map f = as ∧ ∀ b ∈ bs, R (f b) b := by
  constructor
  · intro h
    induction h with
    | nil => exact ⟨rfl, fun b hb => absurd hb List.not_mem_nil⟩
    | cons hab _ ih =>
      have hfb := hf _ _ hab
      exact ⟨by rw [List.map_cons, hfb, ih.1],
        List.forall_mem_cons.mpr ⟨hfb.symm ▸ hab, ih.2⟩⟩
  · rintro ⟨rfl, h⟩
    rw [List.forall₂_map_left_iff, List.forall₂_same]
    exact h

/-- Results that carry their elements along are the elements again, each with
its result. -/
theorem mapM_along_ok_iff {f : α → Except ε β} {as : List α} {ps : List (α × β)} :
    (as.mapM fun a => do return (a, ← f a)) = .ok ps
      ↔ ps.map Prod.fst = as ∧ ∀ p ∈ ps, f p.1 = .ok p.2 := by
  have hpair : ∀ (a : α) (p : α × β),
      (do return (a, ← f a) : Except ε (α × β)) = .ok p ↔ p.1 = a ∧ f a = .ok p.2 := by
    intro a p
    rw [bind_ok_iff]
    constructor
    · rintro ⟨b, hb, h⟩
      rw [← Except.ok.inj h]
      exact ⟨rfl, hb⟩
    · rintro ⟨rfl, hb⟩
      exact ⟨p.2, hb, rfl⟩
  rw [mapM_ok_iff]
  simp only [hpair]
  rw [forall₂_along_iff fun a p h => h.1]
  exact and_congr_right fun _ => forall₂_congr fun p _ => and_iff_right rfl

/-- **A run of steps that all go well goes well**, and does what they do. -/
theorem foldlM_ok {f : β → α → Except ε β} {g : β → α → β} {as : List α}
    (h : ∀ b, ∀ a ∈ as, f b a = .ok (g b a)) (b : β) : as.foldlM f b = .ok (as.foldl g b) := by
  induction as generalizing b with
  | nil => rfl
  | cons a as ih =>
    rw [List.foldlM_cons, h b a List.mem_cons_self]
    exact ih (fun b a ha => h b a (List.mem_cons_of_mem _ ha)) (g b a)

/-- **A run of steps that keep what makes them go well** goes well, and keeps it. -/
theorem exists_foldlM_ok {P : β → Prop} {f : β → α → Except ε β} {as : List α}
    (step : ∀ b, P b → ∀ a ∈ as, ∃ b', f b a = .ok b' ∧ P b') {b : β} (hb : P b) :
    ∃ b', as.foldlM f b = .ok b' ∧ P b' := by
  induction as generalizing b with
  | nil => exact ⟨b, rfl, hb⟩
  | cons a as ih =>
    obtain ⟨b₁, h₁, hb₁⟩ := step b hb a List.mem_cons_self
    obtain ⟨b', h', hb'⟩ := ih (fun b hb a ha => step b hb a (List.mem_cons_of_mem _ ha)) hb₁
    exact ⟨b', by rw [List.foldlM_cons]; exact bind_ok_iff.mpr ⟨b₁, h₁, h'⟩, hb'⟩

/-- **What every step keeps, a run keeps**, if it ends well. -/
theorem foldlM_keeps {P : β → Prop} {f : β → α → Except ε β}
    (step : ∀ b a b', P b → f b a = .ok b' → P b') {as : List α} {b b' : β} (hb : P b)
    (h : as.foldlM f b = .ok b') : P b' := by
  induction as generalizing b with
  | nil =>
    rw [List.foldlM_nil] at h
    exact Except.ok.inj h ▸ hb
  | cons a as ih =>
    rw [List.foldlM_cons] at h
    obtain ⟨b₁, h₁, h⟩ := bind_ok_iff.mp h
    exact ih (step b a b₁ hb h₁) h

/-- **What every step carries along a run**, a whole run carries, if it ends well:
a property may speak of the elements that the run has gone through. -/
theorem foldlM_along {P : List α → β → Prop} {f : β → α → Except ε β} {as : List α}
    (step : ∀ done, ∀ a ∈ as, ∀ b b', P done b → f b a = .ok b' → P (done ++ [a]) b')
    {b b' : β} (hb : P [] b) (h : as.foldlM f b = .ok b') : P as b' := by
  have hrun : ∀ rest done b, (∀ a ∈ rest, a ∈ as) → P done b → rest.foldlM f b = .ok b' →
      P (done ++ rest) b' := by
    intro rest
    induction rest with
    | nil =>
      intro done b _ hb h
      rw [List.foldlM_nil] at h
      rw [List.append_nil, ← Except.ok.inj h]
      exact hb
    | cons a rest ih =>
      intro done b hmem hb h
      obtain ⟨ha, hrest⟩ := List.forall_mem_cons.mp hmem
      rw [List.foldlM_cons] at h
      obtain ⟨b₁, h₁, h⟩ := bind_ok_iff.mp h
      rw [List.append_cons]
      exact ih (done ++ [a]) b₁ hrest (step done a ha b b₁ hb h₁) h
  exact hrun as [] b (fun _ => id) hb h

/-- A run whose steps go well or not whatever came before goes well exactly if each
of them does. -/
theorem exists_foldlM_ok_iff {Q : α → Prop} {f : β → α → Except ε β} {as : List α}
    (h : ∀ b, ∀ a ∈ as, (∃ b', f b a = .ok b') ↔ Q a) (b : β) :
    (∃ b', as.foldlM f b = .ok b') ↔ ∀ a ∈ as, Q a := by
  induction as generalizing b with
  | nil => exact ⟨fun _ a ha => absurd ha List.not_mem_nil, fun _ => ⟨b, rfl⟩⟩
  | cons a as ih =>
    have ih := ih fun b a ha => h b a (List.mem_cons_of_mem _ ha)
    rw [List.forall_mem_cons, ← h b a List.mem_cons_self]
    simp only [List.foldlM_cons, bind_ok_iff]
    constructor
    · rintro ⟨b', b₁, h₁, hrest⟩
      exact ⟨⟨b₁, h₁⟩, (ih b₁).mp ⟨b', hrest⟩⟩
    · rintro ⟨⟨b₁, h₁⟩, hrest⟩
      obtain ⟨b', hb'⟩ := (ih b₁).mpr hrest
      exact ⟨b', b₁, h₁, hb'⟩

theorem toOption_eq_some_iff {x : Except ε α} {a : α} : x.toOption = some a ↔ x = .ok a := by
  cases x with
  | error e =>
    constructor <;> intro h <;> cases h
  | ok a' => exact ⟨fun h => congrArg _ (Option.some.inj h), fun h => congrArg _ (Except.ok.inj h)⟩

/-- What a computation gives, if it ends well and gives something. -/
def given (x : Except ε (Option α)) : Option α :=
  x.toOption.join

theorem given_eq_some_iff {x : Except ε (Option α)} {a : α} :
    given x = some a ↔ x = .ok (some a) := by
  unfold given
  cases x with
  | error e =>
    constructor <;> intro h <;> cases h
  | ok a? => exact ⟨fun h => congrArg _ h, fun h => Except.ok.inj h⟩

/-- **A computation that ends well**, and gives nothing but what has a property. -/
def Gives (P : α → Prop) (x : Except ε (Option α)) : Prop :=
  ∃ a?, x = .ok a? ∧ ∀ a ∈ a?, P a

section Gives

variable {P : α → Prop} {x : Except ε (Option α)}

theorem gives_none : Gives P (.ok none : Except ε (Option α)) :=
  ⟨none, rfl, fun _ h => absurd h (Option.not_mem_none _)⟩

theorem gives_some {a : α} (h : P a) : Gives P (.ok (some a) : Except ε (Option α)) :=
  ⟨some a, rfl, fun _ ha => Option.mem_some.mp ha ▸ h⟩

theorem Gives.exists_ok (h : Gives P x) : ∃ a?, x = .ok a? := by
  obtain ⟨a?, ha, -⟩ := h
  exact ⟨a?, ha⟩

/-- What is given has the property. -/
theorem Gives.of_given (h : Gives P x) {a : α} (ha : given x = some a) : P a := by
  obtain ⟨a?, rfl, hP⟩ := h
  exact hP a (Except.ok.inj (given_eq_some_iff.mp ha))

end Gives

/-- **A run of steps that each look at one element** and take what it gives
goes well exactly if every element can be looked at. It takes what the elements
give, one after the other. -/
theorem foldlM_given_iff {γ : Type} {f : β → α → Except ε β} {g : α → Except ε (Option γ)}
    {h : β → γ → β} (hf : ∀ b a, f b a = (g a).map fun c? => c?.elim b (h b)) {as : List α}
    {b b' : β} :
    as.foldlM f b = .ok b'
      ↔ (∀ a ∈ as, ∃ c?, g a = .ok c?) ∧ (as.filterMap fun a => given (g a)).foldl h b = b' := by
  induction as generalizing b with
  | nil =>
    rw [List.foldlM_nil, and_iff_right fun a ha => absurd ha List.not_mem_nil]
    exact ⟨fun h => Except.ok.inj h, fun h => congrArg _ h⟩
  | cons a as ih =>
    rw [List.foldlM_cons, bind_ok_iff, List.forall_mem_cons, hf, List.filterMap_cons]
    simp only [map_ok_iff, ih]
    cases ha : g a with
    | error e =>
      constructor
      · rintro ⟨_, ⟨_, hsome, -⟩, -⟩
        cases hsome
      · rintro ⟨⟨⟨_, hsome⟩, -⟩, -⟩
        cases hsome
    | ok c? =>
      constructor
      · rintro ⟨_, ⟨c?, hsome, rfl⟩, hrest, hfold⟩
        cases hsome
        refine ⟨⟨⟨c?, rfl⟩, hrest⟩, ?_⟩
        cases c? <;> exact hfold
      · rintro ⟨⟨-, hrest⟩, hfold⟩
        refine ⟨_, ⟨c?, rfl, rfl⟩, hrest, ?_⟩
        cases c? <;> exact hfold

end CollectionTypes.Outcome
