import CollectionTypes.Proofs.Outcome
import CollectionTypes.Source.Load

/-!
# What a source holds

A text, a file and an answer of the network may each hold a value, and a loader
finds a schema exactly if the value wraps one (`loadText_ok_iff`, `loadContent_ok_iff`,
`loadPath_ok_iff`, `loadUrl_ok_iff`). What a loader writes in its journal has no bearing on
that.
-/

namespace CollectionTypes

open Outcome

/-- **The value that a content holds**, as it stands. -/
def Content.Holds (c : Content) (v : Value) : Prop :=
  ∃ cs, c.chars = .ok cs ∧ Value.readChars cs = .ok v

/-- **The value that a file holds.** -/
def Files.Holds (files : Files) (path : Path) (v : Value) : Prop :=
  ∃ c cs, files.content path = .ok c ∧ c.read = .ok cs ∧ Value.readChars cs = .ok v

/-- **The value that an answer of the network holds.** -/
def Response.Holds (response : Response) (v : Value) : Prop :=
  ∃ status body, response = .reply status body ∧ isErrorStatus status = false
    ∧ Value.readChars (bodyChars body) = .ok v

/-! ## Finding a schema -/

section Found

variable {files : Files} {path : Path} {response : Response} {url v : Value} {l : Loaded}

theorem loadText_ok_iff {text source : String} :
    (loadText text source).outcome = .ok l
      ↔ ∃ v schema, Value.read text = .ok v ∧ unwrap v = .ok schema ∧ l = ⟨source, schema⟩ := by
  unfold loadText
  cases Value.read text with
  | error e => cases e <;> simp [Loading.fail]
  | ok v =>
    simp only [Traced.outcome_silent, map_ok_iff, Except.ok.injEq, exists_and_left, exists_eq_left']
    exact exists_congr fun schema => and_congr_right fun _ => eq_comm

/-- A content holds one value. -/
theorem Content.Holds.unique {c : Content} {v' : Value} (h : c.Holds v) (h' : c.Holds v') :
    v = v' := by
  obtain ⟨cs, hcs, hv⟩ := h
  obtain ⟨cs', hcs', hv'⟩ := h'
  obtain rfl := Except.ok.inj (hcs.symm.trans hcs')
  exact Except.ok.inj (hv.symm.trans hv')

theorem readFile_ok_iff : (readFile files path).outcome = .ok v ↔ files.Holds path v := by
  unfold readFile Files.Holds
  cases files.content path with
  | error fault => simp [Loading.fail]
  | ok c =>
    cases hc : c.read with
    | error e => simp [hc]
    | ok cs =>
      cases hv : Value.readChars cs with
      | error e => cases e <;> simp [hc, hv, Loading.fail]
      | ok v' => simp [hc, hv]

/-- A file holds one value. -/
theorem Files.Holds.unique {v' : Value} (h : files.Holds path v) (h' : files.Holds path v') :
    v = v' :=
  Except.ok.inj ((readFile_ok_iff.mpr h).symm.trans (readFile_ok_iff.mpr h'))

/-- A value that is unwrapped once it is there. -/
theorem outcome_unwrapping (x : Loading Value) (note source : String) :
    (do
      let v ← x
      Traced.note .info note
      let schema ← unwrap v
      return ⟨source, schema⟩ : Loading Loaded).outcome
      = x.outcome >>= fun v => (unwrap v).map fun schema => ⟨source, schema⟩ := by
  rw [Traced.outcome_bind]
  refine congrArg (x.outcome >>= ·) (funext fun v => ?_)
  cases unwrap v <;> simp only [Traced.outcome_bind] <;> rfl

/-- What a loader of a file comes to, its journal apart. -/
theorem outcome_loadPath (files : Files) (path : Path) :
    (loadPath files path).outcome
      = (files.has path).mapError (SourceError.barred path) >>= fun there =>
          if there then (readFile files path).outcome >>= fun v =>
            (unwrap v).map fun schema => ⟨path.text, schema⟩
          else .error (.missingFile path) := by
  unfold loadPath
  rw [Traced.outcome_bind, Traced.outcome_bind]
  show (files.has path).mapError _ >>= _ = _
  refine congrArg (_ >>= ·) (funext fun there => ?_)
  cases there with
  | false => rfl
  | true => cases path.isJson <;> exact outcome_unwrapping (readFile files path) _ _

theorem loadPath_ok_iff :
    (loadPath files path).outcome = .ok l
      ↔ files.has path = .ok true ∧ ∃ v schema, files.Holds path v ∧ unwrap v = .ok schema
          ∧ l = ⟨path.text, schema⟩ := by
  rw [outcome_loadPath, bind_ok_iff]
  simp only [mapError_ok_iff]
  constructor
  · rintro ⟨there, hthere, h⟩
    cases there with
    | false => cases h
    | true =>
      obtain ⟨v, hv, h⟩ := bind_ok_iff.mp h
      obtain ⟨schema, hschema, rfl⟩ := map_ok_iff.mp h
      exact ⟨hthere, v, schema, readFile_ok_iff.mp hv, hschema, rfl⟩
  · rintro ⟨hthere, v, schema, hv, hschema, rfl⟩
    refine ⟨true, hthere, ?_⟩
    exact bind_ok_iff.mpr ⟨v, readFile_ok_iff.mpr hv, map_ok_iff.mpr ⟨schema, hschema, rfl⟩⟩

theorem readResponse_ok_iff : (readResponse url response).outcome = .ok v ↔ response.Holds v := by
  unfold readResponse Response.Holds
  cases response with
  | raises f =>
    cases hkind : f.kind? with
    | none => simp [hkind]
    | some kind =>
      cases hstatus : f.status? <;> cases kind <;>
        simp [hkind, hstatus, Loading.fail, Loading.failSaying]
  | reply status body =>
    cases hstatus : isErrorStatus status with
    | true => simp [hstatus, Loading.fail]
    | false =>
      cases hv : Value.readChars (bodyChars body) with
      | ok v' => simp [hstatus, hv]
      | error e =>
        cases e with
        | misspelt m => simp [hstatus, hv, Loading.fail]
        | excess e => cases e <;> simp [hstatus, hv, Loading.fail]

/-- An answer holds one value. -/
theorem Response.Holds.unique {v' : Value} (h : response.Holds v) (h' : response.Holds v') :
    v = v' := by
  have hv : (readResponse .null response).outcome = .ok v := readResponse_ok_iff.mpr h
  exact Except.ok.inj (hv.symm.trans (readResponse_ok_iff.mpr h'))

/-- What a loader from the network comes to, its journal apart. -/
theorem outcome_loadUrl (response : Response) (url : Value) :
    (loadUrl response url).outcome
      = urlOf url >>= fun u => if u.isComplete then (readResponse url response).outcome >>= fun v =>
          (unwrap v).map fun schema => ⟨url.shown, schema⟩
        else .error (.incompleteUrl url) := by
  unfold loadUrl
  rw [Traced.outcome_bind, Traced.outcome_bind]
  show urlOf url >>= _ = _
  refine congrArg (urlOf url >>= ·) (funext fun u => ?_)
  cases u.isComplete with
  | false => rfl
  | true => exact outcome_unwrapping (readResponse url response) _ _

theorem loadUrl_ok_iff :
    (loadUrl response url).outcome = .ok l
      ↔ (∃ u, urlOf url = .ok u ∧ u.isComplete = true)
        ∧ ∃ v schema, response.Holds v ∧ unwrap v = .ok schema ∧ l = ⟨url.shown, schema⟩ := by
  have hcomplete : ∀ u : Url,
      (if u.isComplete then (readResponse url response).outcome >>= fun v =>
          (unwrap v).map fun schema => ⟨url.shown, schema⟩
        else .error (.incompleteUrl url)) = Except.ok l
      ↔ u.isComplete = true ∧ ∃ v schema, response.Holds v ∧ unwrap v = .ok schema
          ∧ l = ⟨url.shown, schema⟩ := by
    intro u
    by_cases hu : u.isComplete = true
    · rw [if_pos hu]
      simp only [bind_ok_iff, readResponse_ok_iff, map_ok_iff, hu, true_and, exists_and_left]
      refine exists_congr fun v => and_congr_right fun _ => exists_congr fun schema => ?_
      exact and_congr_right fun _ => eq_comm
    · rw [if_neg hu]
      simp [hu]
  rw [outcome_loadUrl, bind_ok_iff]
  simp only [hcomplete, ← and_assoc, exists_and_right]

end Found

end CollectionTypes
