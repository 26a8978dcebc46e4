/-!
# The journal of a computation

A computation that may fail tells in a *journal* what it did, entry by
entry, each of some importance. The journal outlives a failure: what was
written before it stays written. `Traced` is the journal together with the
outcome, and computations are put one behind the other as usual; the
lemmas say what that does to the outcome (`outcome_bind`) and to the
journal (`journal_bind_ok`, `journal_bind_error`).
-/

namespace CollectionTypes

/-- **How important an entry is.** -/
inductive Level where
  | debug
  | info
  | warning
  | error
  deriving DecidableEq, Repr

namespace Level

/-- The name of a level. -/
def label : Level → String
  | debug => "DEBUG"
  | info => "INFO"
  | warning => "WARNING"
  | error => "ERROR"

/-- The number of a level; a higher one is more important. -/
def number : Level → Int
  | debug => 10
  | info => 20
  | warning => 30
  | error => 40

end Level

/-- **An entry of a journal.** -/
structure Entry where
  level : Level
  text : String
  deriving DecidableEq, Repr

/-- **A computation with its journal**, whether it ends well or not. -/
structure Traced (ε α : Type) where
  /-- What was written down, oldest entry first. -/
  journal : List Entry
  /-- What came out. -/
  outcome : Except ε α

namespace Traced

variable {ε α β : Type}

/-- Nothing written down. -/
def silent (x : Except ε α) : Traced ε α := ⟨[], x⟩

/-- One entry. -/
def note (level : Level) (text : String) : Traced ε Unit :=
  ⟨[⟨level, text⟩], .ok ()⟩

/-- Entries in a row. -/
def notes (es : List Entry) : Traced ε Unit :=
  ⟨es, .ok ()⟩

/-- One computation behind the other. -/
def andThen (x : Traced ε α) (f : α → Traced ε β) : Traced ε β :=
  match x.outcome with
  | .ok a => ⟨x.journal ++ (f a).journal, (f a).outcome⟩
  | .error e => ⟨x.journal, .error e⟩

instance : Monad (Traced ε) where
  pure a := silent (.ok a)
  bind := andThen

instance : MonadLift (Except ε) (Traced ε) where
  monadLift := silent

/-- The computation with its failures taken for those of a larger one. -/
def mapError {ε' : Type} (f : ε → ε') (x : Traced ε α) : Traced ε' α :=
  ⟨x.journal, x.outcome.mapError f⟩

/-- The entries of at least a level. -/
def atLeast (level : Level) (es : List Entry) : List Entry :=
  es.filter fun e => level.number ≤ e.level.number

@[simp] theorem outcome_pure (a : α) : (pure a : Traced ε α).outcome = .ok a := rfl

@[simp] theorem outcome_silent (x : Except ε α) : (silent x).outcome = x := rfl

/-- The outcomes are put one behind the other. -/
@[simp] theorem outcome_bind (x : Traced ε α) (f : α → Traced ε β) :
    (x >>= f).outcome = x.outcome >>= fun a => (f a).outcome := by
  show (andThen x f).outcome = _
  unfold andThen
  cases x.outcome <;> rfl

/-- After a success the journal goes on. -/
theorem journal_bind_ok {x : Traced ε α} {a : α} (h : x.outcome = .ok a)
    (f : α → Traced ε β) : (x >>= f).journal = x.journal ++ (f a).journal := by
  show (andThen x f).journal = _
  unfold andThen
  rw [h]

/-- After a failure the journal ends. -/
theorem journal_bind_error {x : Traced ε α} {e : ε} (h : x.outcome = .error e)
    (f : α → Traced ε β) : (x >>= f).journal = x.journal := by
  show (andThen x f).journal = _
  unfold andThen
  rw [h]

/-- A fold that keeps a journal has the outcome of the fold of outcomes. -/
theorem outcome_foldlM (f : β → α → Traced ε β) (as : List α) (b : β) :
    (as.foldlM f b).outcome = as.foldlM (fun b a => (f b a).outcome) b := by
  induction as generalizing b with
  | nil => rfl
  | cons a as ih =>
    rw [List.foldlM_cons, List.foldlM_cons, outcome_bind]
    exact congrArg (bind (f b a).outcome) (funext fun b' => ih b')

end Traced

end CollectionTypes
