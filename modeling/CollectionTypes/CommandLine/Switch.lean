/-!
# The switches of the command line

A switch is either a toggle, which stands alone, or a parameter, which has
a value. Some have two spellings. `spellings` lists them all in the order
in which the help shows them.
-/

namespace CollectionTypes.CommandLine

/-- **A switch that stands alone.** -/
inductive Toggle where
  | help
  | stdin
  | useTabs
  | trailingSemicolons
  | verbose
  deriving DecidableEq, Repr

/-- **A switch that has a value.** -/
inductive Parameter where
  | url
  | token
  | output
  | config
  | saveConfig
  | spaces
  | logLevel
  deriving DecidableEq, Repr

/-- **A switch.** -/
inductive Switch where
  | toggle (t : Toggle)
  | parameter (p : Parameter)
  deriving DecidableEq, Repr

/-- The spellings of a toggle. -/
def Toggle.names : Toggle → List String
  | help => ["-h", "--help"]
  | stdin => ["--stdin"]
  | useTabs => ["--use-tabs"]
  | trailingSemicolons => ["--trailing-semicolons"]
  | verbose => ["--verbose"]

/-- The spellings of a parameter. -/
def Parameter.names : Parameter → List String
  | url => ["--url"]
  | token => ["--token"]
  | output => ["--output", "-o"]
  | config => ["--config"]
  | saveConfig => ["--save-config"]
  | spaces => ["--spaces"]
  | logLevel => ["--log-level"]

namespace Switch

/-- The switches in their order. -/
def all : List Switch :=
  [.toggle .help, .parameter .url, .toggle .stdin, .parameter .token, .parameter .output,
    .parameter .config, .parameter .saveConfig, .parameter .spaces, .toggle .useTabs,
    .toggle .trailingSemicolons, .toggle .verbose, .parameter .logLevel]

/-- The spellings of a switch. -/
def names : Switch → List String
  | toggle t => t.names
  | parameter p => p.names

/-- How an error refers to a switch. -/
def label (s : Switch) : String :=
  "/".intercalate s.names

/-- Every spelling with its switch, in their order. -/
def spellings : List (String × Switch) :=
  all.flatMap fun s => s.names.map fun name => (name, s)

/-- **The switch that a text spells.** -/
def ofName? (name : String) : Option Switch :=
  (spellings.find? fun s => s.1 == name).map Prod.snd

end Switch

end CollectionTypes.CommandLine
