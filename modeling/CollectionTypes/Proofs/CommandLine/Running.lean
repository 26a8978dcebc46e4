import CollectionTypes.CommandLine.Run
import CollectionTypes.Proofs.Outcome

/-!
# What the parts of a run do

A part of a run goes on from the trail of the parts before it. What it does to the
files and the standard output, what comes out of it, and what it says on the console
are put together in `Running.Does`. A part ends as it says if its texts can be
printed, and is broken off by the first one that cannot; so the texts can be left to
the end, and parts are put one behind the other without looking at the console
(`Does.bind`).
-/

namespace CollectionTypes

/-- **A text that can be printed** with its markup. -/
def Console.Printable (markup : String) : Prop :=
  ∃ text, printed markup = .ok text

theorem Console.exists_not_printable {ms : List String} (h : ¬ ∀ m ∈ ms, Printable m) :
    ∃ m ∈ ms, ¬ Printable m := by
  obtain ⟨m, hm⟩ := Classical.not_forall.mp h
  exact ⟨m, Classical.not_imp.mp hm⟩

namespace CommandLine.Running

open Console

variable {α β : Type}

/-- What comes out of a part of a run, and its trail. -/
def on (x : Running α) (t : Trail) : Except RunError α × Trail :=
  ExceptT.run x t

section On

variable (t : Trail)

@[simp] theorem on_pure (a : α) : (pure a : Running α).on t = (.ok a, t) := rfl

@[simp] theorem on_modify (f : Trail → Trail) : (modify f : Running Unit).on t = (.ok (), f t) :=
  rfl

@[simp] theorem on_get : (get : Running Trail).on t = (.ok t, t) := rfl

@[simp] theorem on_lift {ε : Type} (f : ε → RunError) (x : Except ε α) :
    (lift f x).on t = (x.mapError f, t) := by
  cases x <;> rfl

theorem on_lift_of_ok {ε : Type} {f : ε → RunError} {x : Except ε α} {a : α} (h : x = .ok a) :
    (lift f x).on t = (.ok a, t) := by
  rw [h]
  rfl

theorem on_lift_of_error {ε : Type} {f : ε → RunError} {x : Except ε α} {e : ε}
    (h : x = .error e) : (lift f x).on t = (.error (f e), t) := by
  rw [h]
  rfl

theorem on_bind (x : Running α) (f : α → Running β) :
    (x >>= f).on t = match x.on t with
      | (.ok a, t') => (f a).on t'
      | (.error e, t') => (.error e, t') := by
  show ExceptT.bindCont f (x.on t).1 (x.on t).2 = _
  rcases x.on t with ⟨_ | a, t'⟩ <;> rfl

theorem on_bind_of_ok {x : Running α} {f : α → Running β} {a : α} {t' : Trail}
    (h : x.on t = (.ok a, t')) : (x >>= f).on t = (f a).on t' := by
  rw [on_bind, h]

theorem on_bind_of_error {x : Running α} {f : α → Running β} {e : RunError} {t' : Trail}
    (h : x.on t = (.error e, t')) : (x >>= f).on t = (.error e, t') := by
  rw [on_bind, h]

end On

/-- **What a part of a run does** from a trail on: what it says on the console, what
comes out, and the files and the standard output that it leaves behind. A text that
cannot be printed breaks it off. -/
structure Does (x : Running α) (t : Trail) (said : List String) (outcome : Except RunError α)
    (files : Files) (output : String) : Prop where
  ends : (∀ m ∈ said, Printable m) →
    ∃ t', x.on t = (outcome, t') ∧ t'.files = files ∧ t'.output = output
  breaks : ∀ m ∈ said, ¬ Printable m → ∃ e t', x.on t = (.error (.markup e), t')

variable {x : Running α} {t t' : Trail} {outcome : Except RunError α}

/-- A part that says nothing. -/
theorem does_of_on (h : x.on t = (outcome, t')) : x.Does t [] outcome t'.files t'.output where
  ends _ := ⟨t', h, rfl, rfl⟩
  breaks _ hm := absurd hm List.not_mem_nil

theorem does_pure (a : α) (t : Trail) : (pure a : Running α).Does t [] (.ok a) t.files t.output :=
  does_of_on (on_pure t a)

/-- **A text on the console** leaves files and output as they are. -/
theorem does_say (m : String) (t : Trail) : (say m).Does t [m] (.ok ()) t.files t.output where
  ends h := by
    obtain ⟨text, htext⟩ := h m List.mem_cons_self
    exact ⟨{ t with console := t.console ++ text }, on_bind_of_ok t (on_lift_of_ok t htext),
      rfl, rfl⟩
  breaks m' hm' hnone := by
    obtain rfl := List.mem_singleton.mp hm'
    cases htext : printed m' with
    | ok text => exact absurd ⟨text, htext⟩ hnone
    | error e => exact ⟨e, t, on_bind_of_error t (on_lift_of_error t htext)⟩

namespace Does

variable {f : α → Running β} {a : α} {said said' : List String} {files files' : Files}
  {output output' : String} {outcome' : Except RunError β}

/-- **One part behind the other**, if something came out of the first. -/
theorem bind (hx : x.Does t said (.ok a) files output)
    (hf : ∀ t', t'.files = files → t'.output = output →
      (f a).Does t' said' outcome' files' output') :
    (x >>= f).Does t (said ++ said') outcome' files' output' where
  ends h := by
    rw [List.forall_mem_append] at h
    obtain ⟨t', hon, hfiles, houtput⟩ := hx.ends h.1
    rw [on_bind_of_ok t hon]
    exact (hf t' hfiles houtput).ends h.2
  breaks m hm hnone := by
    by_cases hsaid : ∀ m ∈ said, Printable m
    · -- the first part ends, so it is the second that is broken off
      obtain ⟨t', hon, hfiles, houtput⟩ := hx.ends hsaid
      have hm' := (List.mem_append.mp hm).resolve_left fun h => hnone (hsaid m h)
      rw [on_bind_of_ok t hon]
      exact (hf t' hfiles houtput).breaks m hm' hnone
    · obtain ⟨m, hm, hnone⟩ := exists_not_printable hsaid
      obtain ⟨e, t', hon⟩ := hx.breaks m hm hnone
      exact ⟨e, t', on_bind_of_error t hon⟩

/-- After an error there is no other part. -/
theorem bind_error {e : RunError} (hx : x.Does t said (.error e) files output)
    (f : α → Running β) : (x >>= f).Does t said (.error e) files output where
  ends h := by
    obtain ⟨t', hon, hfiles, houtput⟩ := hx.ends h
    exact ⟨t', on_bind_of_error t hon, hfiles, houtput⟩
  breaks m hm hnone := by
    obtain ⟨e, t', hon⟩ := hx.breaks m hm hnone
    exact ⟨e, t', on_bind_of_error t hon⟩

/-- A part with nothing to say before another one. -/
theorem bind_of_on (h : x.on t = (.ok a, t'))
    (hf : (f a).Does t' said' outcome' files' output') :
    (x >>= f).Does t said' outcome' files' output' where
  ends hsaid := by
    rw [on_bind_of_ok t h]
    exact hf.ends hsaid
  breaks m hm hnone := by
    rw [on_bind_of_ok t h]
    exact hf.breaks m hm hnone

end Does

/-- Texts in a row. -/
theorem does_forM_say (f : String → String) (ws : List String) (t : Trail) :
    (ws.forM fun w => say (f w)).Does t (ws.map f) (.ok ()) t.files t.output := by
  induction ws generalizing t with
  | nil => exact does_pure () t
  | cons w ws ih =>
    show Does _ t ([f w] ++ ws.map f) _ _ _
    refine (does_say (f w) t).bind fun t' hfiles houtput => ?_
    rw [← hfiles, ← houtput]
    exact ih t'

end CommandLine.Running

end CollectionTypes
