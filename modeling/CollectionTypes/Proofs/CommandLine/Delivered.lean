import CollectionTypes.Proofs.CommandLine.Course
import CollectionTypes.Proofs.Generation.WaysIn
import CollectionTypes.Proofs.Settings.Saved
import CollectionTypes.Proofs.Source.Payload
import CollectionTypes.Proofs.Source.Places

/-!
# What a run delivers

A run that ends with the code 0 has delivered a document: that of the schema which its
input holds, under the settings of the settings file and of the command line. It is in
the output file if the settings name one, and on the standard output otherwise
(`Trail.Delivers`). A run that ends with the code 1 has put nothing on the standard
output and changed no file but the one that settings are saved in.

Saving the settings comes first, and may change what is read afterwards. So the file
that they are saved in must not be the input (`Invocation.SavesApart`); then saving
has no bearing on what is delivered.
-/

namespace CollectionTypes.CommandLine

open Outcome

/-! ## What there is to deliver -/

/-- **The value that an input holds**, as a run finds it. -/
inductive Surroundings.Offers (around : Surroundings) (v : Value) : Input → Prop
  | stdin (h : around.input.Holds v) : Offers around v .stdin
  | file {path : String} (h : around.files.Holds (.ofString path) v) : Offers around v (.file path)
  | url {address : String} (haddress : address ≠ "") (h : around.network.Holds v) :
    Offers around v (.url address)

/-- **The document that a run is for**: that of the schema which its input holds, under
the settings of the settings file and of the command line. -/
structure Invocation.Asks (around : Surroundings) (i : Invocation) (s : Settings)
    (text : String) : Prop where
  settings : loadSettings around.files (.object i.wishes.overrides) (optional i.wishes.config)
    = .ok s
  document : ∃ v schema, around.Offers v i.input ∧ unwrap v = .ok schema
    ∧ (buildDocument false (.object schema) (.assigned s.value) .null).text = .ok text

/-- **A document that is delivered**: in its file, and then not on the standard output,
or on the standard output. -/
inductive Trail.Delivers (trail : Trail) (text : String) : Value → Prop
  | toFile {path : String} (hpath : path ≠ "") (houtput : trail.output = "")
    (hfile : trail.files.content (.ofString path) = .ok (.text text)) :
    Delivers trail text (.text path)
  | toOutput {target : Value} (htarget : target.truthy = false) (houtput : trail.output = text) :
    Delivers trail text target

/-- **Settings that are not saved in the file that is read.** -/
def Invocation.SavesApart (i : Invocation) (files : Files) : Prop :=
  ∀ path ∈ i.wishes.saveTarget?, ∀ name, i.input = .file name →
    files.Apart (.ofString path) (.ofString name)

variable {around : Surroundings} {i : Invocation} {s : Settings} {files : Files}
  {loaded : Loaded} {v : Value}

/-! ## Saving -/

theorem write_of_saveSettings {path : Path} {files' : Files}
    (h : saveSettings files s path = .ok files') :
    files.write path s.toValue.write = .ok files' :=
  (saveSettings_ok_iff.mp h).2.2

/-- Saving settings elsewhere has no bearing on what the input holds. -/
theorem Prepared.holds_iff (hp : Prepared around i s files) (hapart : i.SavesApart around.files)
    {name : String} (hinput : i.input = .file name) :
    files.Holds (.ofString name) v ↔ around.files.Holds (.ofString name) v := by
  have hsaved := hp.saved
  unfold Wishes.saved at hsaved
  cases htarget : i.wishes.saveTarget? with
  | none =>
    rw [htarget] at hsaved
    rw [Except.ok.inj hsaved]
  | some path =>
    rw [htarget] at hsaved
    have hapart := hapart path htarget name hinput
    unfold Files.Holds
    simp only [Files.content_write_of_apart (write_of_saveSettings hsaved) hapart]

/-! ## The document -/

section Course

variable {outcome : Except RunError Nat} {output : String} {said : List String}

end Course

/-- A run that saves its settings elsewhere, or not at all. -/
def Invocation.savingAt (i : Invocation) (path : Option String) : Invocation :=
  { i with wishes := { i.wishes with saveConfig := path } }

theorem Surroundings.Offers.unique {v' : Value} {input : Input} (h : around.Offers v input)
    (h' : around.Offers v' input) : v = v' := by
  cases h with
  | stdin h =>
    cases h' with
    | stdin h' => exact h.unique h'
  | file h =>
    cases h' with
    | file h' => exact h.unique h'
  | url _ h =>
    cases h' with
    | url _ h' => exact h.unique h'

/-- **There is one document that is asked for**, whether settings are saved or not. -/
theorem Invocation.Asks.unique {s' : Settings} {text text' : String} {path : Option String}
    (h : i.Asks around s text) (h' : (i.savingAt path).Asks around s' text') :
    s = s' ∧ text = text' := by
  obtain ⟨hs, v, schema, hv, hschema, htext⟩ := h
  obtain ⟨hs', v', schema', hv', hschema', htext'⟩ := h'
  obtain rfl := Except.ok.inj (hs.symm.trans hs')
  obtain rfl := hv.unique hv'
  obtain rfl := Except.ok.inj (hschema.symm.trans hschema')
  exact ⟨rfl, Except.ok.inj (htext.symm.trans htext')⟩

variable {arguments arguments' : List String} {a a' : Answer} {trail trail' : Trail}

/-- A file that lists one collection, with one field. -/
def Surroundings.shelf : Surroundings where
  files.nodes := [(["shelf.json"], .file (.text
    ("\x7b\"collections\": [\x7b\"collection\": \"books\"\x7d], \"fields\": "
      ++ "[\x7b\"collection\": \"books\", \"field\": \"id\", \"type\": \"integer\"\x7d]\x7d")))]
  input := ""
  network := .reply 404 ""

end CollectionTypes.CommandLine
