import CollectionTypes.CommandLine.Arguments
import CollectionTypes.Console.Page
import CollectionTypes.Console.Sheet
import CollectionTypes.Journal.Logger
import CollectionTypes.Settings.Storage
import CollectionTypes.Source.Load

/-!
# Running a command line

A run reads settings, loads a schema, generates its document, and puts the
document into a file or on the standard output. Everything else it has to
say goes to the console. `Surroundings` is what a run finds, `Trail` what
it leaves behind, and the trail stays even if the run breaks off.

Most errors are told on the console and end the run with the exit code 1;
`RunError.isTold` says which.
-/

namespace CollectionTypes.CommandLine

/-- **What a run finds.** -/
structure Surroundings where
  files : Files
  /-- What is on the standard input, in UTF-8. -/
  input : Content
  network : Response

/-- **What a run leaves behind.** -/
structure Trail where
  files : Files
  /-- The text on the standard output. -/
  output : String := ""
  /-- The text on the console. -/
  console : String := ""
  journal : List Entry := []
  requests : List Request := []

/-- **Why a run breaks off.** -/
inductive RunError where
  | storage (e : StorageError)
  | source (e : SourceError)
  /-- A document that cannot be written to its file. -/
  | unwritable (path : Path) (fault : FileFault)
  | misuse (m : Misuse)
  /-- Something to say with tags that do not match. -/
  | markup (e : Console.MarkupError)
  | noLevel (e : NoLevel)

namespace RunError

/-- The wording of the error. -/
def message : RunError → String
  | storage e => e.message
  | source e => e.message
  | unwritable path fault =>
    "Failed to write to " ++ path.text ++ ": " ++ fault.message path.text
  | misuse m => m.message
  | markup e => e.message
  | noLevel e => e.message

/-- Whether the error is told on the console. A path that cannot be looked
up, a text that is no text, a value out of place and a failure of an unknown
kind are not. -/
def isTold : RunError → Bool
  | storage (.barred _ _) => false
  | storage (.notText _) => false
  | storage (.excess _) => false
  | storage (.misuse _) => false
  | storage _ => true
  | source (.barred _ _) => false
  | source (.notText _) => false
  | source (.excess _) => false
  | source (.badUrl _) => false
  | source (.raised _) => false
  | source (.misuse _) => false
  | source _ => true
  | unwritable _ _ => true
  | misuse _ => false
  | markup _ => false
  | noLevel _ => false

end RunError

/-- A part of a run. -/
abbrev Running := ExceptT RunError (StateM Trail)

namespace Running

/-- What may be an error, as a part of a run. -/
def lift {ε α : Type} (f : ε → RunError) : Except ε α → Running α
  | .ok a => pure a
  | .error e => throw (f e)

/-- A text on the console, as it is. -/
def put (text : String) : Running Unit :=
  modify fun t => { t with console := t.console ++ text }

/-- **A text with markup on the console.** -/
def say (markup : String) : Running Unit := do
  let text ← lift .markup (Console.printed markup)
  put text

/-- Entries in the journal. -/
def write (es : List Entry) : Running Unit :=
  modify fun t => { t with journal := t.journal ++ es }

/-- What a loader does, as a part of a run. -/
def loading {α : Type} (x : Loading α) : Running α := do
  write x.journal
  lift .source x.outcome

end Running

open Running

/-- A value that may be absent. -/
def optional (s : Option String) : Value :=
  (s.map Value.text).getD .null

/-- The settings that the command line chooses itself. An empty output is
no choice, and a width without a value is no width. -/
def Wishes.overrides (w : Wishes) : List (String × Value) :=
  (w.spaces.map fun n => ("spaces", (n.map Value.int).getD (.list []))).toList
    ++ (if w.useTabs then [("use_tabs", .bool true)] else [])
    ++ (if w.trailingSemicolons then [("trailing_semicolons", .bool true)] else [])
    ++ (if (optional w.output).truthy then [("output_file", optional w.output)] else [])

/-- **The settings of a run**: those of the settings file, and the command
line's own. -/
def Wishes.settings (w : Wishes) (files : Files) : Except StorageError Settings :=
  loadSettings files (.object w.overrides) (optional w.config)

/-- The settings, saved where the command line wants it. -/
def save (s : Settings) (path : Option String) : Running Unit :=
  match path with
  | none => pure ()
  | some path =>
    if path = "" then pure ()
    else do
      let files ← lift .storage (saveSettings (← get).files s (.ofString path))
      modify fun t => { t with files }
      say ("[green]✓[/green] Configuration saved to [cyan]" ++ path ++ "[/cyan]")

/-- How many seconds a request may take. -/
def patience : Value := .int 30

/-- **The schema from its input.** An empty web address is none, and then
there is no file either. -/
def fetchInput (around : Surroundings) (input : Input) (token : Option String) :
    Running Loaded :=
  match input with
  | .stdin => loading (loadContent around.input "<stdin>")
  | .file path => do loading (loadFile (← get).files (.text path))
  | .url address =>
    if address = "" then do loading (loadFile (← get).files .null)
    else do
      let url := Value.text address
      modify fun t =>
        { t with requests := t.requests ++ requestsFor url (optional token) patience }
      loading (loadUrl around.network url)

/-- **The document put where it belongs.** -/
def deliver (text : String) (target : Value) : Running Unit :=
  if target.truthy then do
    let path ← lift .misuse (pathOf target)
    if path.hasNul then throw (.misuse .nulInPath)
    else
      let files ← lift (.unwritable path) ((← get).files.write path text)
      modify fun t => { t with files }
      say ("[green]✓[/green] Types saved to [cyan]" ++ path.text ++ "[/cyan]")
  else modify fun t => { t with output := t.output ++ text }

/-- The words of a fact's name, each with a capital letter. -/
def titled (name : String) : String :=
  " ".intercalate ((Text.cutAt '_' name.toList).map fun cs =>
    (String.ofList cs).capitalize)

/-- The facts of a report, as a sheet. -/
def factSheet (facts : List (String × Value)) : Console.Sheet where
  title := "📊 Generation Metadata"
  heading := ("Property", "Value")
  rows := facts.map fun f => (titled f.1, f.2.shown)

/-- The warnings of a report on the console. -/
def tellWarnings (warnings : List String) : Running Unit :=
  if warnings.isEmpty then pure ()
  else do
    say "\n[yellow]⚠️  Warnings:[/yellow]"
    warnings.forM fun w => say ("  [yellow]•[/yellow] " ++ w)

/-- **What is done with a report**, and the exit code. -/
def conclude (s : Settings) (verbose : Bool) (r : Report) : Running Nat :=
  match r.error with
  | some e => do
    say ("[red]✗ Code generation failed:[/red] " ++ Report.failureText e)
    say ("[dim]Details: " ++ e.message ++ "[/dim]")
    return 1
  | none => do
    deliver r.text s.outputFile
    if verbose then put ("\n" ++ (factSheet r.metadata).text)
    tellWarnings r.warnings
    return 0

/-- **The parts of a run in their order.** -/
def steps (around : Surroundings) (i : Invocation) : Running Nat := do
  let s ← lift .storage (i.wishes.settings (← get).files)
  save s i.wishes.saveConfig
  let loaded ← fetchInput around i.input i.wishes.token
  write [⟨.info, "Generating types from " ++ loaded.source⟩]
  let report := generateCode (.gives (.object loaded.schema)) .absent (.assigned s.value)
  write report.journal
  conclude s i.wishes.verbose report

/-- An error told on the console, with its exit code. -/
def tell (e : RunError) : Running Nat :=
  if e.isTold then do
    say ("[red]✗ Error:[/red] " ++ e.message)
    return 1
  else throw e

/-- **A run**: the exit code or what broke it off, and its trail. The
journal holds what is important enough, which has to be known before the run
begins. -/
def run (around : Surroundings) (i : Invocation) : Except RunError Nat × Trail :=
  match i.wishes.logLevel with
  | none => (.error (.noLevel ⟨.list []⟩), { files := around.files })
  | some level =>
    let (outcome, trail) := (tryCatch (steps around i) tell).run { files := around.files }
    (outcome, { trail with journal := Traced.atLeast level trail.journal })

/-- **How a command line ends**: with an exit code, and perhaps because it
makes no sense. -/
structure Answer where
  exit : Nat
  usage : Option UsageError := none

/-- **The answer to a command line.** -/
def respond (around : Surroundings) (arguments : List String) :
    Except RunError Answer × Trail :=
  match Invocation.ofArguments arguments with
  | .ok i =>
    let (outcome, trail) := run around i
    (outcome.map fun exit => { exit }, trail)
  | .error .help => (.ok { exit := 0 }, { files := around.files, output := helpText })
  | .error (.misuse e) => (.ok { exit := 2, usage := some e }, { files := around.files })

end CollectionTypes.CommandLine
