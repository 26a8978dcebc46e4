import CollectionTypes.Proofs.CommandLine.Running

/-!
# The parts of a run

Settings are saved, a schema is fetched, and a document is put where it belongs. For
each of these there is a plain definition of what comes of it (`Wishes.saved`,
`Surroundings.load`) and of the words that go with it (`Wishes.savedWords`,
`writtenWords`, `warningWords`, `failureWords`), and a lemma that the part does just
that.
-/

namespace CollectionTypes.CommandLine

/-! ## What comes of the parts -/

namespace Wishes

variable (w : Wishes)

/-- Where the settings are to be saved; an empty path is none. -/
def saveTarget? : Option String :=
  w.saveConfig.filter fun path => path ≠ ""

/-- **The files once the settings are saved**, if they are to be saved. -/
def saved (s : Settings) (files : Files) : Except StorageError Files :=
  w.saveTarget?.elim (.ok files) fun path => saveSettings files s (.ofString path)

/-- What is said about saved settings. -/
def savedWords : List String :=
  w.saveTarget?.toList.map fun path =>
    "[green]✓[/green] Configuration saved to [cyan]" ++ path ++ "[/cyan]"

end Wishes

/-- **What is loaded** from an input, the settings having been saved. -/
def Surroundings.load (around : Surroundings) (files : Files) : Input → Loading Loaded
  | .stdin => loadContent around.input "<stdin>"
  | .file path => loadFile files (.text path)
  | .url address =>
    if address = "" then loadFile files .null else loadUrl around.network (.text address)

/-- What is said about a failure. -/
def failureWords (e : GenerationError) : List String :=
  ["[red]✗ Code generation failed:[/red] " ++ Report.failureText e,
    "[dim]Details: " ++ e.message ++ "[/dim]"]

/-- What is said about a document that is in its file. -/
def writtenWords (path : Path) : List String :=
  ["[green]✓[/green] Types saved to [cyan]" ++ path.text ++ "[/cyan]"]

/-- What is said about warnings. -/
def warningWords (warnings : List String) : List String :=
  if warnings.isEmpty then []
  else "\n[yellow]⚠️  Warnings:[/yellow]" :: warnings.map fun w => "  [yellow]•[/yellow] " ++ w

/-! ## What they do -/

open Running

variable {around : Surroundings} {t : Trail}

theorem save_of_none {w : Wishes} (h : w.saveTarget? = none) (s : Settings) :
    save s w.saveConfig = pure () := by
  unfold Wishes.saveTarget? at h
  unfold save
  cases hsave : w.saveConfig with
  | none => rfl
  | some path =>
    have hpath : path = "" := by simpa [hsave, Option.filter_some] using h
    exact if_pos hpath

theorem save_of_some {w : Wishes} {path : String} (h : w.saveTarget? = some path)
    (s : Settings) :
    save s w.saveConfig = (do
      let files ← lift .storage (saveSettings (← get).files s (.ofString path))
      modify fun t => { t with files }
      say ("[green]✓[/green] Configuration saved to [cyan]" ++ path ++ "[/cyan]")) := by
  obtain ⟨hsave, hpath⟩ := Option.filter_eq_some_iff.mp h
  unfold save
  rw [hsave]
  exact if_neg (by simpa using hpath)

/-- The settings are saved where they are to be. -/
theorem does_save {s : Settings} {w : Wishes} {files : Files}
    (h : w.saved s t.files = .ok files) :
    (save s w.saveConfig).Does t w.savedWords (.ok ()) files t.output := by
  unfold Wishes.saved at h
  unfold Wishes.savedWords
  cases htarget : w.saveTarget? with
  | none =>
    rw [htarget] at h
    obtain rfl := Except.ok.inj h
    rw [save_of_none htarget]
    exact does_pure () t
  | some path =>
    rw [htarget] at h
    have hsave : saveSettings t.files s (.ofString path) = .ok files := h
    rw [save_of_some htarget]
    refine .bind_of_on (on_get t) (.bind_of_on (on_lift_of_ok t hsave) ?_)
    exact .bind_of_on (on_modify t _) (does_say _ { t with files := files })

theorem does_save_error {s : Settings} {w : Wishes} {e : StorageError}
    (h : w.saved s t.files = .error e) :
    (save s w.saveConfig).Does t [] (.error (.storage e)) t.files t.output := by
  unfold Wishes.saved at h
  cases htarget : w.saveTarget? with
  | none =>
    rw [htarget] at h
    cases h
  | some path =>
    rw [htarget] at h
    have hsave : saveSettings t.files s (.ofString path) = .error e := h
    rw [save_of_some htarget]
    refine .bind_of_on (on_get t) (Does.bind_error ?_ _)
    exact does_of_on (on_lift_of_error t hsave)

/-- What a loader gives. -/
theorem on_loading {α : Type} (x : Loading α) (t : Trail) :
    (loading x).on t
      = (x.outcome.mapError .source, { t with journal := t.journal ++ x.journal }) := by
  exact (on_bind_of_ok t (on_modify t _)).trans (on_lift _ _ _)

/-- Loading changes nothing. -/
theorem does_fetchInput (around : Surroundings) (input : Input) (token : Option String)
    (t : Trail) :
    ∃ t', (fetchInput around input token).on t
        = ((around.load t.files input).outcome.mapError .source, t')
      ∧ t'.files = t.files ∧ t'.output = t.output := by
  unfold fetchInput Surroundings.load
  cases input with
  | stdin => exact ⟨_, on_loading _ t, rfl, rfl⟩
  | file path =>
    show ∃ t', ((get : Running Trail) >>= fun t => loading (loadFile t.files (.text path))).on t = _
      ∧ _
    rw [on_bind, on_get]
    exact ⟨_, on_loading _ t, rfl, rfl⟩
  | url address =>
    by_cases haddress : address = ""
    · simp only [haddress, if_true]
      rw [on_bind, on_get]
      exact ⟨_, on_loading _ t, rfl, rfl⟩
    · simp only [haddress, if_false]
      rw [on_bind, on_modify]
      exact ⟨_, on_loading _ _, rfl, rfl⟩

section Deliver

variable {text : String} {target : Value} {path : Path}

/-- A document that has no file goes to the standard output. -/
theorem does_deliver_printed (htarget : target.truthy = false) (houtput : t.output = "") :
    (deliver text target).Does t [] (.ok ()) t.files text := by
  have hon : (deliver text target).on t = (.ok (), { t with output := text }) := by
    unfold deliver
    rw [if_neg (by simp [htarget]), on_modify, houtput, String.empty_append]
  exact does_of_on hon

theorem deliver_of_truthy (htarget : target.truthy = true) (text : String) :
    deliver text target = (do
      let path ← lift .misuse (pathOf target)
      if path.hasNul then throw (.misuse .nulInPath)
      else
        let files ← lift (.unwritable path) ((← get).files.write path text)
        modify fun t => { t with files }
        say ("[green]✓[/green] Types saved to [cyan]" ++ path.text ++ "[/cyan]")) := by
  unfold deliver
  rw [if_pos htarget]

theorem does_deliver_written {files : Files} (htarget : target.truthy = true)
    (hpath : pathOf target = .ok path) (hnul : path.hasNul = false)
    (h : t.files.write path text = .ok files) :
    (deliver text target).Does t (writtenWords path) (.ok ()) files t.output := by
  rw [deliver_of_truthy htarget]
  refine .bind_of_on (on_lift_of_ok t hpath) ?_
  rw [hnul]
  refine .bind_of_on (on_get t) (.bind_of_on (on_lift_of_ok t h) ?_)
  exact .bind_of_on (on_modify t _) (does_say _ { t with files := files })

theorem on_deliver_notPath {m : Misuse} (htarget : target.truthy = true)
    (hpath : pathOf target = .error m) :
    (deliver text target).on t = (.error (.misuse m), t) := by
  rw [deliver_of_truthy htarget]
  exact on_bind_of_error t (on_lift_of_error t hpath)

theorem on_deliver_nulInPath (htarget : target.truthy = true)
    (hpath : pathOf target = .ok path) (hnul : path.hasNul = true) :
    (deliver text target).on t = (.error (.misuse .nulInPath), t) := by
  rw [deliver_of_truthy htarget, on_bind_of_ok t (on_lift_of_ok t hpath), if_pos hnul]
  rfl

theorem on_deliver_unwritable {fault : FileFault} (htarget : target.truthy = true)
    (hpath : pathOf target = .ok path) (hnul : path.hasNul = false)
    (h : t.files.write path text = .error fault) :
    (deliver text target).on t = (.error (.unwritable path fault), t) := by
  rw [deliver_of_truthy htarget, on_bind_of_ok t (on_lift_of_ok t hpath), hnul]
  exact (on_bind_of_ok t (on_get t)).trans (on_bind_of_error t (on_lift_of_error t h))

end Deliver

theorem does_tellWarnings (warnings : List String) (t : Trail) :
    (tellWarnings warnings).Does t (warningWords warnings) (.ok ()) t.files t.output := by
  unfold tellWarnings warningWords
  by_cases hnone : warnings.isEmpty = true
  · rw [if_pos hnone, if_pos hnone]
    exact does_pure () t
  · rw [if_neg hnone, if_neg hnone]
    refine (does_say _ t).bind fun t' hfiles houtput => ?_
    rw [← hfiles, ← houtput]
    exact does_forM_say _ warnings t'

section Conclude

variable {s : Settings} {verbose : Bool} {r : Report}

theorem conclude_of_none (h : r.error = none) :
    conclude s verbose r = (do
      deliver r.text s.outputFile
      if verbose then put ("\n" ++ (factSheet r.metadata).text)
      tellWarnings r.warnings
      return 0) := by
  unfold conclude
  rw [h]

/-- What is told once the document is where it belongs. -/
theorem does_afterwards (verbose : Bool) (r : Report) (t : Trail) :
    (do
      if verbose then put ("\n" ++ (factSheet r.metadata).text)
      tellWarnings r.warnings
      return 0 : Running Nat).Does t (warningWords r.warnings) (.ok 0) t.files t.output := by
  have hrest : ∀ t' : Trail, (tellWarnings r.warnings >>= fun _ => pure 0 : Running Nat).Does t'
      (warningWords r.warnings) (.ok 0) t'.files t'.output := by
    intro t'
    rw [← List.append_nil (warningWords r.warnings)]
    refine (does_tellWarnings r.warnings t').bind fun t'' hfiles houtput => ?_
    rw [← hfiles, ← houtput]
    exact does_pure 0 t''
  cases verbose with
  | false => exact hrest t
  | true => exact .bind_of_on (on_modify t _) (hrest _)

theorem does_conclude_failed {e : GenerationError} (h : r.error = some e) (t : Trail) :
    (conclude s verbose r).Does t (failureWords e) (.ok 1) t.files t.output := by
  unfold conclude
  rw [h]
  refine (does_say _ t).bind fun t' hfiles houtput => ?_
  rw [← List.append_nil [_]]
  refine (does_say _ t').bind fun t'' hfiles' houtput' => ?_
  rw [← hfiles, ← houtput, ← hfiles', ← houtput']
  exact does_pure 1 t''

theorem does_conclude {said : List String} {files : Files} {output : String}
    (h : r.error = none)
    (hdeliver : (deliver r.text s.outputFile).Does t said (.ok ()) files output) :
    (conclude s verbose r).Does t (said ++ warningWords r.warnings) (.ok 0) files output := by
  rw [conclude_of_none h]
  refine hdeliver.bind fun t' hfiles houtput => ?_
  rw [← hfiles, ← houtput]
  exact does_afterwards verbose r t'

theorem does_conclude_error {e : RunError} (h : r.error = none)
    (hdeliver : (deliver r.text s.outputFile).on t = (.error e, t)) :
    (conclude s verbose r).Does t [] (.error e) t.files t.output := by
  rw [conclude_of_none h]
  exact (does_of_on hdeliver).bind_error _

end Conclude

end CollectionTypes.CommandLine
