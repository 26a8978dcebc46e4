import CollectionTypes.Settings.Basic
import CollectionTypes.Source.Files
import CollectionTypes.Value.Misuse
import CollectionTypes.Value.Reader
import CollectionTypes.Value.Writer

/-!
# Settings in files

Settings are kept in a file as a JSON object, and what a file says can be
overridden by a second object. `loadSettings` puts the two together and
checks the result; `saveSettings` writes settings so that they can be
loaded again.
-/

namespace CollectionTypes

/-- **Why settings cannot be loaded or saved.** -/
inductive StorageError where
  | settings (e : SettingsError)
  | missingFile (path : Path)
  /-- A path that cannot be looked up. -/
  | barred (path : Path) (fault : FileFault)
  | notJson (path : Path)
  | badJson (path : Path) (m : Misspelling)
  /-- A file that exceeds a limit of what can be read. -/
  | excess (e : Excess)
  | unreadable (path : Path) (fault : FileFault)
  | notObject (path : Path)
  | unwritable (path : Path) (fault : FileFault)
  | notText (e : Text.Utf8Error)
  | misuse (m : Misuse)

/-- The wording of the error. -/
def StorageError.message : StorageError → String
  | settings e => e.message
  | missingFile path => "Configuration file not found: " ++ path.text
  | barred path fault => fault.message path.text
  | notJson path => "Configuration file must be JSON: " ++ path.text
  | badJson path m =>
    "Invalid JSON in configuration file " ++ path.text ++ ": " ++ m.message
  | excess e => e.message
  | unreadable path fault =>
    "Failed to load configuration file " ++ path.text ++ ": " ++ fault.message path.text
  | notObject path => "Configuration file must contain a JSON object: " ++ path.text
  | unwritable path fault =>
    "Failed to save configuration to " ++ path.text ++ ": " ++ fault.message path.text
  | notText e => e.message
  | misuse m => m.message

/-- A loosely typed path. -/
def pathOf : Value → Except Misuse Path
  | .text s => .ok (.ofString s)
  | v => .error (.notPath v.kind)

/-- Why a settings file cannot be read. -/
def StorageError.ofRead (path : Path) : ReadError → StorageError
  | .misspelt m => badJson path m
  | .excess e => excess e

/-- The object that a settings file holds. -/
def readSettingsFile (files : Files) (path : Path) :
    Except StorageError (List (String × Value)) := do
  let there ← (files.has path).mapError (.barred path)
  if !there then .error (.missingFile path)
  else if !path.isJson then .error (.notJson path)
  else
    let content ← (files.content path).mapError (.unreadable path)
    let cs ← content.read.mapError .notText
    match ← (Value.readChars cs).mapError (.ofRead path) with
    | .object ms => return ms
    | _ => .error (.notObject path)

/-- What a settings file chooses; without a path nothing. -/
def choicesOfFile (files : Files) (path : Value) : Except StorageError Choices :=
  if path.truthy then do
    let path ← (pathOf path).mapError .misuse
    (Choices.none.add (← readSettingsFile files path)).mapError .settings
  else .ok Choices.none

/-- Choices with those of a loosely typed object; one that is not present
chooses nothing. -/
def overriddenBy (c : Choices) (v : Value) : Except StorageError Choices :=
  if v.truthy then
    match v with
    | .object ms => (c.add ms).mapError .settings
    | _ => .error (.misuse (.lacks v.kind "items"))
  else .ok c

/-- **Settings from a file and from overrides.** -/
def loadSettings (files : Files) (overrides path : Value) : Except StorageError Settings := do
  let chosen ← choicesOfFile files path
  let chosen ← overriddenBy chosen overrides
  chosen.settle.mapError .settings

/-- **Settings written to a file.** That a number is too long to be written
is found out only once the file is open. -/
def saveSettings (files : Files) (s : Settings) (path : Path) : Except StorageError Files :=
  if path.hasNul then .error (.misuse .nulInPath)
  else do
    let written ← (files.write path s.toValue.write).mapError (.unwritable path)
    if s.toValue.isWritable then return written else .error (.misuse .tooLong)

end CollectionTypes
