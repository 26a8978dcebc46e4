import CollectionTypes.CommandLine.Switch
import CollectionTypes.Text.Quoted

/-!
# How the command line is used

The help text, and the ways in which a command line can be wrong, with
their wording.
-/

namespace CollectionTypes.CommandLine

/-- The name of the program. -/
def programName : String := "directus-typegen"

/-- **The help.** -/
def helpLines : List String :=
  ["usage: directus-typegen [-h] [--url URL] [--stdin] [--token TOKEN]",
    "                        [--output OUTPUT] [--config CONFIG]",
    "                        [--save-config FILE] [--spaces SPACES] [--use-tabs]",
    "                        [--trailing-semicolons] [--verbose]",
    "                        [--log-level \x7bDEBUG,INFO,WARNING,ERROR\x7d]",
    "                        [file]",
    "",
    "Generate TypeScript types from a Directus schema",
    "",
    "positional arguments:",
    "  file                  Schema JSON file",
    "",
    "options:",
    "  -h, --help            show this help message and exit",
    "  --url URL             URL to fetch the schema from",
    "  --stdin               Read schema JSON from standard input",
    "  --token TOKEN         Bearer token used with --url",
    "  --output OUTPUT, -o OUTPUT",
    "                        Output file (default: stdout)",
    "  --config CONFIG       Configuration file path (JSON)",
    "  --save-config FILE    Write the effective configuration to FILE",
    "  --verbose             Show generation result metadata",
    "  --log-level \x7bDEBUG,INFO,WARNING,ERROR\x7d",
    "                        Log level (default: WARNING)",
    "",
    "formatting:",
    "  --spaces SPACES       Indentation width in spaces (default: 2)",
    "  --use-tabs            Indent with a tab character",
    "  --trailing-semicolons",
    "                        Terminate each line with a semicolon",
    "",
    "Examples:",
    "  directus-typegen schema.json -o types.ts",
    "  directus-typegen --url https://cms.example.com/schema/snapshot --token TOKEN",
    "  directus-typegen --stdin --use-tabs --trailing-semicolons < schema.json"]

/-- The help as a text. -/
def helpText : String :=
  String.join (helpLines.map (· ++ "\n"))

/-- The importances that entries of the journal can be limited to. -/
def levelNames : List String :=
  ["DEBUG", "INFO", "WARNING", "ERROR"]

/-- **What is wrong with a command line.** -/
inductive UsageError where
  /-- The beginning of several switches. -/
  | ambiguous (word : String) (names : List String)
  /-- A parameter without its value. -/
  | noValue (p : Parameter)
  /-- A toggle with a value. -/
  | valueIgnored (t : Toggle) (value : String)
  /-- A value that should be a whole number. -/
  | notWhole (p : Parameter) (value : String)
  /-- A value that is no importance. -/
  | notLevel (p : Parameter) (value : String)
  /-- Two inputs. -/
  | conflict (second first : String)
  /-- No input. -/
  | noInput
  /-- Words that mean nothing. -/
  | leftOver (words : List String)

namespace UsageError

/-- What is wrong with a switch. -/
def atSwitch (s : Switch) (fault : String) : String :=
  "argument " ++ s.label ++ ": " ++ fault

/-- The wording of the fault. -/
def fault : UsageError → String
  | ambiguous word names =>
    "ambiguous option: " ++ word ++ " could match " ++ ", ".intercalate names
  | noValue p => atSwitch (.parameter p) "expected one argument"
  | valueIgnored t value =>
    atSwitch (.toggle t) ("ignored explicit argument " ++ Text.quoted value)
  | notWhole p value =>
    atSwitch (.parameter p) ("invalid int value: " ++ Text.quoted value)
  | notLevel p value =>
    atSwitch (.parameter p) ("invalid choice: " ++ Text.quoted value ++ " (choose from "
      ++ ", ".intercalate (levelNames.map Text.quoted) ++ ")")
  | conflict second first => "argument " ++ second ++ ": not allowed with argument " ++ first
  | noInput => "one of the arguments file --url --stdin is required"
  | leftOver words => "unrecognized arguments: " ++ " ".intercalate words

/-- **The wording of the error.** -/
def message (e : UsageError) : String :=
  programName ++ ": error: " ++ e.fault

end UsageError

end CollectionTypes.CommandLine
