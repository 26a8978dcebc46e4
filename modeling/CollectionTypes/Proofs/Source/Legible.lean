import CollectionTypes.Proofs.Source.Payload
import CollectionTypes.Proofs.Source.Places

/-!
# What a loader refuses

A loader that finds no schema may refuse what it was given: it is out of reach, it
is no JSON, or it wraps no object (`SourceError.isRefusal`); and a file may be missing. Other
errors break off the loading: a path that cannot be looked up, bytes that are no text, a text
that is beyond what the reader can take, an address that is none, a failure of no known kind.
Which of the two it is depends on whether what the loader was given is legible
(`Files.Legible`, `Response.Legible`), and on nothing else.

So one source that is given is loaded, refused or found missing exactly if it
is legible (`load_ends_iff_legible`).
-/

namespace CollectionTypes

open Outcome

/-! ## What can be read or refused -/

/-- **Characters within the limits** of what can be read. They need not be JSON. -/
def Value.WithinLimits (cs : List Char) : Prop :=
  ∀ e, readChars cs ≠ .error (.excess e)

/-- **A content that is legible** as it stands: a text within the limits. -/
def Content.Legible (c : Content) : Prop :=
  ∃ cs, c.chars = .ok cs ∧ Value.WithinLimits cs

/-- **A file that is legible**, if there is one: a text within the limits. -/
def Files.Legible (files : Files) (path : Path) : Prop :=
  ∀ c, files.content path = .ok c → ∃ cs, c.read = .ok cs ∧ Value.WithinLimits cs

/-- **An answer of the network that is legible**: no body with too many values inside
each other, and no failure but one of a known kind; if it is taken for a status that stands
for an error, it comes with one. -/
def Response.Legible : Response → Prop
  | reply status body => isErrorStatus status = false →
      ∀ isList, Value.readChars (bodyChars body) ≠ .error (.excess (.depth isList))
  | raises f => f.kinds ≠ [] ∧ (f.kind? = some .badStatus → f.status?.isSome = true)

/-! ## Errors that refuse -/

namespace SourceError

/-- **A refusal**: the error by which a loader says that there is no schema to be had. -/
def isRefusal : SourceError → Bool
  | missingFile _ => false
  | barred _ _ => false
  | notText _ => false
  | excess _ => false
  | badUrl _ => false
  | raised _ => false
  | misuse _ => false
  | _ => true

/-- **Refusals and no others** are of a kind, whether a missing file is or not. -/
def Refusing (P : SourceError → Prop) : Prop :=
  ∀ e, (∀ path, e ≠ .missingFile path) → (P e ↔ e.isRefusal = true)

theorem Refusing.iff {P : SourceError → Prop} (h : Refusing P) {e : SourceError}
    (he : ∀ path, e ≠ .missingFile path) : P e ↔ e.isRefusal = true :=
  h e he

/-- **An error that a loader announces**: a refusal, or that a file is missing which is
not there. -/
def Announced (files : Files) (e : SourceError) : Prop :=
  e.isRefusal = true ∨ ∃ path, e = .missingFile path ∧ files.has path = .ok false

theorem refusing_isRefusal : Refusing fun e => e.isRefusal = true :=
  fun _ _ => .rfl

theorem refusing_announced (files : Files) : Refusing (Announced files) :=
  fun _ he => or_iff_left fun ⟨path, h, _⟩ => he path h

theorem announced_missingFile_iff {files : Files} {path : Path} :
    Announced files (.missingFile path) ↔ files.has path = .ok false := by
  simp [Announced, isRefusal]

end SourceError

/-! ## Loading that goes wrong in certain ways only

Every loader breaks off exactly where what it was given is not legible, whichever errors
are told from a refusal by what. -/

section Loading

variable {P : SourceError → Prop} {files : Files} {path : Path} {response : Response}

/-- A value that wraps no schema is refused. -/
theorem failsOnly_unwrap (hP : SourceError.Refusing P) (v : Value) : FailsOnly P (unwrap v) := by
  unfold unwrap
  cases unwrapped v <;> simp [hP.iff, SourceError.isRefusal]

theorem failsOnly_loadText_iff (hP : SourceError.Refusing P) {text source : String} :
    FailsOnly P (loadText text source).outcome ↔ Value.WithinLimits text.toList := by
  unfold loadText Value.read Value.WithinLimits
  cases Value.readChars text.toList with
  | ok v => simp [failsOnly_unwrap hP]
  | error e => cases e <;> simp [Loading.fail, hP.iff, SourceError.isRefusal]

theorem failsOnly_readFile_iff (hP : SourceError.Refusing P) :
    FailsOnly P (readFile files path).outcome ↔ files.Legible path := by
  unfold readFile Files.Legible Value.WithinLimits
  cases files.content path with
  | error fault => simp [Loading.fail, hP.iff, SourceError.isRefusal]
  | ok c =>
    cases hc : c.read with
    | error e => simp [hc, hP.iff, SourceError.isRefusal]
    | ok cs =>
      cases hv : Value.readChars cs with
      | ok v => simp [hc, hv]
      | error e => cases e <;> simp [hc, hv, Loading.fail, hP.iff, SourceError.isRefusal]

theorem failsOnly_loadPath_iff (hP : SourceError.Refusing P) :
    FailsOnly P (loadPath files path).outcome
      ↔ files.Searchable path ∧ (files.has path = .ok true → files.Legible path)
        ∧ (files.has path = .ok false → P (.missingFile path)) := by
  rw [outcome_loadPath, failsOnly_bind_iff, failsOnly_mapError_iff, ← Files.exists_has_iff]
  cases files.has path with
  | error fault => simp [hP.iff, SourceError.isRefusal]
  | ok there =>
    cases there <;> simp [Except.mapError, failsOnly_bind_iff, failsOnly_readFile_iff hP,
      failsOnly_unwrap hP]

theorem failsOnly_readResponse_iff (hP : SourceError.Refusing P) {url : Value} :
    FailsOnly P (readResponse url response).outcome ↔ response.Legible := by
  unfold readResponse Response.Legible
  cases response with
  | raises f =>
    show _ ↔ f.kinds ≠ [] ∧ _
    rw [ne_eq, ← Failure.kind?_eq_none_iff]
    cases hkind : f.kind? with
    | none => simp [hkind, hP.iff, SourceError.isRefusal]
    | some kind =>
      cases hstatus : f.status? <;> cases kind <;>
        simp [hkind, hstatus, Loading.fail, Loading.failSaying, hP.iff, SourceError.isRefusal]
  | reply status body =>
    cases hstatus : isErrorStatus status with
    | true => simp [hstatus, Loading.fail, hP.iff, SourceError.isRefusal]
    | false =>
      cases hv : Value.readChars (bodyChars body) with
      | ok v => simp [hstatus, hv]
      | error e =>
        cases e with
        | misspelt m => simp [hstatus, hv, Loading.fail, hP.iff, SourceError.isRefusal]
        | excess e => cases e <;> simp [hstatus, hv, Loading.fail, hP.iff, SourceError.isRefusal]

theorem failsOnly_loadUrl_iff (hP : SourceError.Refusing P) {address : String} :
    FailsOnly P (loadUrl response (.text address)).outcome
      ↔ ∃ u, Url.ofString address = .ok u ∧ (u.isComplete = true → response.Legible) := by
  have hurl : urlOf (.text address) = (Url.ofString address).mapError .badUrl := rfl
  rw [outcome_loadUrl, hurl, failsOnly_bind_iff]
  cases Url.ofString address with
  | error e => simp [hP.iff, SourceError.isRefusal]
  | ok u =>
    cases hu : u.isComplete with
    | true =>
      simp [hu, failsOnly_bind_iff, failsOnly_readResponse_iff hP, failsOnly_unwrap hP,
        Except.mapError]
    | false => simp [hu, hP.iff, SourceError.isRefusal, Except.mapError]

end Loading

/-! ## One source -/

section One

variable (files : Files) (response : Response) (source : String) {absent : Value}

theorem load_path (h : absent.truthy = false) :
    load files response (.text source) absent = if source = "" then
        Loading.failSaying "Neither file_path nor url provided" .noSource
      else loadPath files (.ofString source) := by
  have htext : (Value.text source).truthy = (source != "") := rfl
  by_cases hsource : source = "" <;> simp [load, h, htext, hsource, loadFile]

theorem load_url (h : absent.truthy = false) :
    load files response absent (.text source) = if source = "" then
        Loading.failSaying "Neither file_path nor url provided" .noSource
      else loadUrl response (.text source) := by
  have htext : (Value.text source).truthy = (source != "") := rfl
  by_cases hsource : source = "" <;> simp [load, h, htext, hsource]

/-- An empty path is the working directory. -/
theorem Files.searchable_ofString_empty : files.Searchable (.ofString "") :=
  Files.exists_has_iff.mp ⟨true, rfl⟩

/-- The working directory is no file. -/
theorem Files.legible_ofString_empty : files.Legible (.ofString "") := by
  intro c h
  obtain ⟨place, hleads, hnode, -⟩ := Files.content_ok_iff.mp h
  obtain rfl : [] = place := Except.ok.inj hleads
  cases hnode

/-- **One source that is given** is loaded or refused exactly if it is legible, and a file
may also be found missing: no other error comes of a path exactly if it can be looked up and
the file there, if any, is a text within the limits, and none of an address exactly if it is
well-formed and the answer, if it is asked for, is legible. -/
theorem load_ends_iff_legible (h : absent.truthy = false) :
    (FailsOnly (SourceError.Announced files) (load files response (.text source) absent).outcome
        ↔ files.Searchable (.ofString source)
          ∧ (files.has (.ofString source) = .ok true → files.Legible (.ofString source)))
      ∧ (FailsOnly (fun e => e.isRefusal = true) (load files response absent (.text source)).outcome
        ↔ ∃ u, Url.ofString source = .ok u ∧ (u.isComplete = true → response.Legible)) := by
  rw [load_path files response source h, load_url files response source h]
  by_cases hsource : source = ""
  · subst hsource
    have hurl : Url.ofString "" = .ok ⟨[], []⟩ := rfl
    simp [Loading.failSaying, SourceError.Announced, SourceError.isRefusal,
      Files.searchable_ofString_empty, Files.legible_ofString_empty, hurl, Url.isComplete]
  · rw [if_neg hsource, if_neg hsource, failsOnly_loadPath_iff (SourceError.refusing_announced _),
      failsOnly_loadUrl_iff SourceError.refusing_isRefusal, SourceError.announced_missingFile_iff]
    simp

end One

/-- A working directory with one file of some bytes. -/
def Files.ofBytes (name : String) (bytes : List Nat) : Files where
  nodes := [([name], .file (.bytes bytes))]

/-- A file without a character is refused. -/
theorem empty_file_is_refused :
    Value.null.truthy = false
      ∧ FailsOnly (SourceError.Announced (.ofBytes "schema.json" []))
          (load (.ofBytes "schema.json" []) (.reply 404 "") (.text "schema.json") .null).outcome := by
  have hthere : (Files.ofBytes "schema.json" []).has (.ofString "schema.json") = .ok true := by
    decide +kernel
  refine ⟨rfl, ((load_ends_iff_legible _ _ _ rfl).1).mpr
    ⟨Files.exists_has_iff.mp ⟨true, hthere⟩, ?_⟩⟩
  intro _ c hc
  obtain rfl : Content.bytes [] = c := Except.ok.inj hc
  exact ⟨[], rfl, fun e he => nomatch he⟩

/-- **A file that is no text** is neither loaded nor refused. -/
theorem garbled_file_is_not_refused :
    ∃ e, (load (.ofBytes "schema.json" [255]) (.reply 404 "") (.text "schema.json") .null).outcome
        = .error e
      ∧ ¬ SourceError.Announced (.ofBytes "schema.json" [255]) e := by
  refine ⟨.notText ⟨.invalidStart, 0, 1, 255⟩, by rfl, ?_⟩
  simp [SourceError.Announced, SourceError.isRefusal]

end CollectionTypes
