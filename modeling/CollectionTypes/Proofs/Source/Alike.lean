import CollectionTypes.Proofs.Source.Legible
import CollectionTypes.Proofs.Text.Encoded
import CollectionTypes.Proofs.Value.Enveloped

/-!
# One text from three sources

The same text may be given as it is, in a file, or as the body of an answer
(`Delivers`). A file is read with its line ends unified, and a body without the mark of its
byte order, but neither changes what the text holds: whatever way a text is delivered, there is
a schema in it or there is none (`Delivers.ok_iff`).

So all sources load the same schema from a text or all refuse it, and a schema that is
wrapped under `data` is found there (`sources_load_alike`).
-/

namespace CollectionTypes

open Outcome

/-- **A file that holds a text** in UTF-8. -/
def Files.HoldsText (files : Files) (path : Path) (t : String) : Prop :=
  files.has path = .ok true ∧ ∃ c, files.content path = .ok c ∧ c.utf8 = Text.utf8 t

/-- **The ways to load a text**: as it is, from a file that holds it, or from the network, as
the body of an answer that is no error. -/
inductive Delivers (t : String) : Loading Loaded → Prop
  | text (source : String) : Delivers t (loadText t source)
  | file {files : Files} {name : String} (h : files.HoldsText (.ofString name) t) :
      Delivers t (loadFile files (.text name))
  | url {address : String} {u : Url} {status : Int} (haddress : Url.ofString address = .ok u)
      (hcomplete : u.isComplete = true) (hstatus : isErrorStatus status = false) :
      Delivers t (loadUrl (.reply status t) (.text address))

variable {t t' : String} {x : Loading Loaded} {schema : List (String × Value)}

theorem bodyChars_eq (hmark : t.toList.head? ≠ some '\uFEFF') : bodyChars t = t.toList := by
  unfold bodyChars
  split
  · next heq =>
    rw [heq] at hmark
    exact absurd rfl hmark
  · rfl

/-- A file holds what its text does. -/
theorem Files.HoldsText.holds_iff {files : Files} {path : Path} (h : files.HoldsText path t)
    {v : Value} : files.Holds path v ↔ Value.read t = .ok v := by
  obtain ⟨-, c, hcontent, hc⟩ := h
  have hread := Content.read_of_utf8 hc
  unfold Files.Holds
  rw [hcontent]
  simp only [Except.ok.injEq, exists_and_left, exists_eq_left', hread]
  exact (Value.readChars_unified t.toList).1 v

/-- An answer holds what its body does. -/
theorem holds_reply_iff {status : Int} (hmark : t.toList.head? ≠ some '\uFEFF')
    (hstatus : isErrorStatus status = false) {v : Value} :
    (Response.reply status t).Holds v ↔ Value.read t = .ok v := by
  unfold Response.Holds Value.read
  constructor
  · rintro ⟨_, _, heq, -, hv⟩
    cases heq
    rwa [bodyChars_eq hmark] at hv
  · intro hv
    exact ⟨status, t, rfl, hstatus, by rwa [bodyChars_eq hmark]⟩

/-- **Whether a text is loaded** does not depend on how it is delivered. -/
theorem Delivers.ok_iff (hx : Delivers t x) (hmark : t.toList.head? ≠ some '\uFEFF') :
    (∃ source, x.outcome = .ok ⟨source, schema⟩)
      ↔ ∃ v, Value.read t = .ok v ∧ unwrap v = .ok schema := by
  -- every loader unwraps the one value that it finds, and names its own source
  have hunwraps : ∀ source, (∀ l, x.outcome = .ok l
        ↔ ∃ v schema, Value.read t = .ok v ∧ unwrap v = .ok schema ∧ l = ⟨source, schema⟩) →
      ((∃ source, x.outcome = .ok ⟨source, schema⟩)
        ↔ ∃ v, Value.read t = .ok v ∧ unwrap v = .ok schema) := by
    intro source hok
    constructor
    · rintro ⟨source', hx⟩
      obtain ⟨v, schema', hv, hschema, heq⟩ := (hok _).mp hx
      cases heq
      exact ⟨v, hv, hschema⟩
    · rintro ⟨v, hv, hschema⟩
      exact ⟨source, (hok _).mpr ⟨v, schema, hv, hschema, rfl⟩⟩
  cases hx with
  | text source => exact hunwraps source fun _ => loadText_ok_iff
  | @file files name h =>
    refine hunwraps (Path.ofString name).text fun l => loadPath_ok_iff.trans ?_
    rw [and_iff_right h.1]
    simp only [h.holds_iff]
  | @url address u status haddress hcomplete hstatus =>
    have hurl : urlOf (.text address) = .ok u := by
      rw [urlOf, haddress]
      rfl
    refine hunwraps (Value.text address).shown fun l => loadUrl_ok_iff.trans ?_
    rw [and_iff_right ⟨u, hurl, hcomplete⟩]
    simp only [holds_reply_iff hmark hstatus]

/-- **A text within the limits is refused**, if it is not loaded. -/
theorem Delivers.failsOnly (hx : Delivers t x) (hmark : t.toList.head? ≠ some '\uFEFF')
    (hlimits : Value.WithinLimits t.toList) :
    FailsOnly (fun e => e.isRefusal = true) x.outcome := by
  cases hx with
  | text source => exact (failsOnly_loadText_iff SourceError.refusing_isRefusal).mpr hlimits
  | @file files name h =>
    obtain ⟨hhas, c, hcontent, hc⟩ := h
    refine (failsOnly_loadPath_iff SourceError.refusing_isRefusal).mpr
      ⟨Files.exists_has_iff.mp ⟨true, hhas⟩, fun _ c' hc' => ?_, ?_⟩
    · rw [hcontent] at hc'
      cases hc'
      refine ⟨_, Content.read_of_utf8 hc, fun e he => hlimits e ?_⟩
      exact ((Value.readChars_unified t.toList).2 e).mp he
    · intro hno
      rw [hhas] at hno
      cases hno
  | url haddress hcomplete hstatus =>
    refine (failsOnly_loadUrl_iff SourceError.refusing_isRefusal).mpr
      ⟨_, haddress, fun _ _ isList => ?_⟩
    rw [bodyChars_eq hmark]
    exact hlimits _

/-! ## Schemas in a text -/

/-- What is wrapped under `data` is the schema. -/
theorem unwrap_wrapped (schema : List (String × Value)) :
    unwrap (.object [("data", .object schema)]) = .ok schema := by
  simp [unwrap, unwrapped, Table.lookup]

/-- An object that has collections of its own, or nothing under `data`, is the schema. -/
theorem unwrap_object (h : Table.lookup "collections" schema ≠ none
    ∨ Table.lookup "data" schema = none) : unwrap (.object schema) = .ok schema := by
  have hunwrapped : unwrapped (.object schema) = .object schema := by
    unfold unwrapped
    dsimp only
    split
    · next hdata hcollections =>
      rcases h with h | h
      · exact absurd hcollections h
      · rw [h] at hdata
        cases hdata
    · rfl
  unfold unwrap
  rw [hunwrapped]

/-- **All sources load alike.** A text that does not begin with the mark of the byte order
and is within the limits is loaded as one and the same schema whatever way it is delivered, or
refused whatever way it is delivered. If it holds an object, that is the schema unless it has
something under `data` and no collections; and the text wrapped under `data` is loaded as the
object in any case. -/
theorem sources_load_alike (hmark : t.toList.head? ≠ some '\uFEFF')
    (hlimits : Value.WithinLimits t.toList) :
    ((∃ schema, ∀ x, Delivers t x → ∃ source, x.outcome = .ok ⟨source, schema⟩)
        ∨ ∀ x, Delivers t x → ∃ e, x.outcome = .error e ∧ e.isRefusal = true)
      ∧ ∀ schema, Value.read t = .ok (.object schema) →
        (Table.lookup "collections" schema ≠ none ∨ Table.lookup "data" schema = none →
          ∀ x, Delivers t x → ∃ source, x.outcome = .ok ⟨source, schema⟩)
        ∧ ∀ t', Wrapped "data" t.toList t'.toList → Value.WithinLimits t'.toList →
          ∀ x, Delivers t' x → ∃ source, x.outcome = .ok ⟨source, schema⟩ := by
  refine ⟨?_, fun schema ht => ⟨fun hschema x hx => ?_, fun t' hwrapped hlimits' x hx => ?_⟩⟩
  · by_cases hloads : ∃ v schema, Value.read t = .ok v ∧ unwrap v = .ok schema
    · obtain ⟨v, schema, hv, hschema⟩ := hloads
      exact .inl ⟨schema, fun x hx => (hx.ok_iff hmark).mpr ⟨v, hv, hschema⟩⟩
    · refine .inr fun x hx => ?_
      cases houtcome : x.outcome with
      | error e => exact ⟨e, rfl, hx.failsOnly hmark hlimits e houtcome⟩
      | ok l =>
        obtain ⟨v, hv, hschema⟩ := (hx.ok_iff hmark).mp ⟨l.source, houtcome⟩
        exact absurd ⟨v, l.schema, hv, hschema⟩ hloads
  · exact (hx.ok_iff hmark).mpr ⟨_, ht, unwrap_object hschema⟩
  · rcases Value.readChars_wrapped hwrapped ht with hread | ⟨isList, hread⟩
    · exact (hx.ok_iff hwrapped.head?_ne).mpr ⟨_, hread, unwrap_wrapped schema⟩
    · exact absurd hread (hlimits' _)

/-- An empty object with a carriage return in it, from a file, and from the network when it is
wrapped under `data`. -/
theorem empty_schema_loads_alike :
    (∃ source, (loadFile (.ofBytes "schema.json" [123, 13, 10, 125]) (.text "schema.json")).outcome
        = .ok ⟨source, []⟩)
      ∧ ∃ source, (loadUrl (.reply 200 "\x7b\"data\": \x7b\r\n\x7d\x7d") (.text "http://a/")).outcome
        = .ok ⟨source, []⟩ := by
  have hlimits : ∀ {t : String}, (Value.readChars t.toList).isOk = true →
      Value.WithinLimits t.toList := by
    intro t ht e he
    rw [he] at ht
    cases ht
  have hurl : Url.ofString "http://a/" = .ok ⟨['h', 't', 't', 'p'], ['a']⟩ :=
    toOption_eq_some_iff.mp (by decide +kernel)
  obtain ⟨-, hloads⟩ := sources_load_alike (t := "\x7b\r\n\x7d") (by decide)
    (hlimits (by decide +kernel))
  obtain ⟨hitself, hwrapped⟩ := hloads [] (by rfl)
  constructor
  · exact hitself (.inr rfl) _ (.file
      ⟨by decide +kernel, .bytes [123, 13, 10, 125], by rfl, by decide +kernel⟩)
  · exact hwrapped _ ⟨[], [], [], [' '], [], [], by simp [Reader.isBlank], by decide +kernel⟩
      (hlimits (by decide +kernel)) _ (.url hurl (by decide +kernel) (by decide +kernel))

end CollectionTypes
