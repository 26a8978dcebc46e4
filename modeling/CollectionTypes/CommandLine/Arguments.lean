import CollectionTypes.CommandLine.Word
import CollectionTypes.Journal.Basic

/-!
# What a command line asks for

`Invocation.ofArguments` reads the words of a command line from left to
right. There has to be exactly one input: a file, a web address, or the
standard input. The first operand is the file; what is left over is an
error, but only once the input is known. The help ends the reading as soon
as it is met with.
-/

namespace CollectionTypes.CommandLine

/-- **Where the schema comes from.** -/
inductive Input where
  | file (path : String)
  | url (address : String)
  | stdin
  deriving DecidableEq, Repr

namespace Input

/-- How an error refers to an input. -/
def label : Input → String
  | file _ => "file"
  | url _ => "--url"
  | stdin => "--stdin"

/-- Whether the input is a file. -/
def isFile : Input → Bool
  | file _ => true
  | _ => false

end Input

/-- **What is asked for beside the input.** A text that was given without a
value is empty. -/
structure Wishes where
  token : Option String := none
  output : Option String := none
  config : Option String := none
  saveConfig : Option String := none
  /-- The width, if it was given, even without a value. -/
  spaces : Option (Option Int) := none
  useTabs : Bool := false
  trailingSemicolons : Bool := false
  verbose : Bool := false
  /-- None if it was given without a value. -/
  logLevel : Option Level := some .warning
  deriving DecidableEq, Repr

/-- **A command line that makes sense.** -/
structure Invocation where
  input : Input
  wishes : Wishes
  deriving DecidableEq, Repr

/-- **Why there is nothing to do.** -/
inductive Ending where
  /-- The help was asked for. -/
  | help
  | misuse (e : UsageError)

/-- The importance of a name. -/
def levelOf? (name : String) : Option Level :=
  [Level.debug, .info, .warning, .error].find? fun l => l.label == name

/-- What is known while a command line is being read. -/
structure Draft where
  input : Option Input := none
  wishes : Wishes := {}
  /-- The words that mean nothing. -/
  leftOver : List String := []

namespace Draft

/-- Whether the file is known. -/
def hasFile (d : Draft) : Bool :=
  d.input.any Input.isFile

/-- The draft with a word that means nothing. -/
def leave (d : Draft) (word : String) : Draft :=
  { d with leftOver := d.leftOver ++ [word] }

/-- The draft with an input. It may only replace one of its own kind. -/
def take (d : Draft) (i : Input) : Except Ending Draft :=
  match d.input with
  | some first =>
    if first.label = i.label then .ok { d with input := some i }
    else .error (.misuse (.conflict i.label first.label))
  | none => .ok { d with input := some i }

/-- The draft with other wishes. -/
def wish (d : Draft) (f : Wishes → Wishes) : Draft :=
  { d with wishes := f d.wishes }

/-- **The draft with the value of a parameter.** -/
def give (d : Draft) (p : Parameter) (value : String) : Except Ending Draft :=
  match p with
  | .url => d.take (.url value)
  | .token => .ok (d.wish fun w => { w with token := some value })
  | .output => .ok (d.wish fun w => { w with output := some value })
  | .config => .ok (d.wish fun w => { w with config := some value })
  | .saveConfig => .ok (d.wish fun w => { w with saveConfig := some value })
  | .spaces =>
    match Text.wholeNumber? value with
    | some n => .ok (d.wish fun w => { w with spaces := some (some n) })
    | none => .error (.misuse (.notWhole p value))
  | .logLevel =>
    match levelOf? value with
    | some level => .ok (d.wish fun w => { w with logLevel := some level })
    | none => .error (.misuse (.notLevel p value))

/-- The draft with a parameter that was given without a value. -/
def giveNothing (d : Draft) (p : Parameter) : Except Ending Draft :=
  match p with
  | .spaces => .ok (d.wish fun w => { w with spaces := some none })
  | .logLevel => .ok (d.wish fun w => { w with logLevel := none })
  | _ => d.give p ""

/-- The draft with an attached value. Two hyphens alone are none. -/
def giveAttached (d : Draft) (p : Parameter) (value : String) : Except Ending Draft :=
  if value = "--" then d.giveNothing p else d.give p value

/-- **The draft with a toggle.** -/
def turn (d : Draft) : Toggle → Except Ending Draft
  | .help => .error .help
  | .stdin => d.take .stdin
  | .useTabs => .ok (d.wish fun w => { w with useTabs := true })
  | .trailingSemicolons => .ok (d.wish fun w => { w with trailingSemicolons := true })
  | .verbose => .ok (d.wish fun w => { w with verbose := true })

end Draft

/-- What comes of characters glued to the short spelling of the help. They
have to be short spellings themselves, and are looked at before the help is
given: the help again, or the output with its value. -/
def endingOf (next : List Word) : List Char → Ending
  | [] => .help
  | 'h' :: cs => endingOf next cs
  | ['o'] =>
    match next with
    | .operand _ :: _ => .help
    | _ => .misuse (.noValue .output)
  | 'o' :: _ => .help
  | cs => .misuse (.valueIgnored .help (String.ofList cs))

/-- **A draft with what words add to it.** Two hyphens alone mean nothing
more once the file is known, unless they stand right behind it. -/
def Draft.read (d : Draft) : List Word → Except Ending Draft
  | [] => .ok d
  | .operand text :: rest =>
    -- only the first operand can be the file
    if d.hasFile then (d.leave text).read rest
    else
      match d.take (.file text), rest with
      | .error e, _ => .error e
      | .ok d, .divider :: rest => d.read rest
      | .ok d, rest => d.read rest
  | .divider :: rest => (if d.hasFile then d.leave "--" else d).read rest
  | .stray text :: rest => (d.leave text).read rest
  | .switch (.parameter p) attached :: rest =>
    match attached.value?, rest with
    | some value, rest =>
      match d.giveAttached p value with
      | .ok d => d.read rest
      | .error e => .error e
    | none, .operand value :: rest =>
      match d.give p value with
      | .ok d => d.read rest
      | .error e => .error e
    | none, _ => .error (.misuse (.noValue p))
  | .switch (.toggle t) attached :: rest =>
    match attached with
    | .nothing =>
      match d.turn t with
      | .ok d => d.read rest
      | .error e => .error e
    | .joined value => .error (.misuse (.valueIgnored t value))
    | .glued value => .error (endingOf rest value.toList)

/-- What a draft asks for in the end. -/
def Draft.settle (d : Draft) : Except Ending Invocation :=
  match d.input with
  | none => .error (.misuse .noInput)
  | some input =>
    if d.leftOver.isEmpty then .ok ⟨input, d.wishes⟩
    else .error (.misuse (.leftOver d.leftOver))

/-- **What a command line asks for.** -/
def Invocation.ofArguments (arguments : List String) : Except Ending Invocation := do
  let words ← (wordsOf arguments).mapError .misuse
  let draft ← Draft.read {} words
  draft.settle

end CollectionTypes.CommandLine
