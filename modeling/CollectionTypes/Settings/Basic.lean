import CollectionTypes.Settings.Key
import CollectionTypes.Value.Shown

/-!
# Settings

`Settings` are settings fit for use: the width of an indentation is
positive, and the names that go into a document are not empty. They are
made from values of any kind, which `Settings.ofValues` checks one after
the other, the first unfit one being reported.

The values come from objects whose members name settings under either
spelling. `Choices` are what such objects say; a later member wins over an
earlier one, and a later object over an earlier one (`Choices.add`). What
nobody chose has its default.
-/

namespace CollectionTypes

/-- **Settings fit for use.** -/
structure Settings where
  /-- How many spaces indent a member. -/
  spaces : Nat := 2
  /-- Whether a tab indents a member instead. -/
  useTabs : Bool := false
  /-- Whether a semicolon ends a declaration and a member. -/
  trailingSemicolons : Bool := false
  /-- Where the host's types are imported from. -/
  hostModule : String := "@directus/types"
  /-- The type of every primary key. -/
  primaryKeyType : String := "PrimaryKey"
  /-- The type that lists all collections. -/
  rollupTypeName : String := "CustomDirectusTypes"
  /-- How the names of the host's collections begin. -/
  systemPrefix : String := "directus_"
  /-- Where the document goes. -/
  outputFile : Value := .null
  spaces_pos : 0 < spaces := by decide
  hostModule_ne : hostModule ≠ "" := by decide
  primaryKeyType_ne : primaryKeyType ≠ "" := by decide
  rollupTypeName_ne : rollupTypeName ≠ "" := by decide

/-- **Why values are no settings.** -/
inductive SettingsError where
  /-- No setting is called that. -/
  | unknown (name : String)
  /-- The width of an indentation has to be positive. -/
  | badSpaces (v : Value)
  /-- The setting is yes or no. -/
  | notFlag (key : SettingKey) (v : Value)
  /-- The setting is a text that is not empty. -/
  | notText (key : SettingKey) (v : Value)
  /-- The beginning of the host's names is a text. -/
  | badSystemPrefix
  /-- Options are an object. -/
  | notOptions (kind : Kind)

namespace SettingsError

/-- The wording of the error. -/
def message : SettingsError → String
  | unknown name => "Unknown configuration option: " ++ name
  | badSpaces v => "spaces must be a positive integer, got " ++ v.quoted
  | notFlag key v => key.name ++ " must be a boolean, got " ++ v.quoted
  | notText key v => key.name ++ " must be a non-empty string, got " ++ v.quoted
  | badSystemPrefix => "system_prefix must be a string"
  | notOptions kind => "Unsupported options type: " ++ kind.label

end SettingsError

namespace Settings

/-- The defaults. -/
instance : Inhabited Settings := ⟨{}⟩

/-- The settings as values. -/
def value (s : Settings) : SettingKey → Value
  | .spaces => .int s.spaces
  | .useTabs => .bool s.useTabs
  | .trailingSemicolons => .bool s.trailingSemicolons
  | .hostModule => .text s.hostModule
  | .primaryKeyType => .text s.primaryKeyType
  | .rollupTypeName => .text s.rollupTypeName
  | .systemPrefix => .text s.systemPrefix
  | .outputFile => s.outputFile

/-- The settings as one object. -/
def toValue (s : Settings) : Value :=
  .object (SettingKey.all.map fun k => (k.name, s.value k))

/-- What ends a declaration and a member. -/
def terminator (s : Settings) : String :=
  if s.trailingSemicolons then ";" else ""

/-! ## Checking values -/

/-- A positive width. -/
def width? : Value → Except SettingsError { n : Nat // 0 < n }
  | .int (.ofNat (n + 1)) => .ok ⟨n + 1, n.succ_pos⟩
  | v => .error (.badSpaces v)

/-- Yes or no. -/
def flag? (key : SettingKey) : Value → Except SettingsError Bool
  | .bool b => .ok b
  | v => .error (.notFlag key v)

/-- A text that is not empty. -/
def filled? (key : SettingKey) : Value → Except SettingsError { s : String // s ≠ "" }
  | .text s => if h : s ≠ "" then .ok ⟨s, h⟩ else .error (.notText key (.text s))
  | v => .error (.notText key v)

/-- A text. -/
def text? : Value → Except SettingsError String
  | .text s => .ok s
  | _ => .error .badSystemPrefix

/-- **Settings from values**, or the first of them that is unfit. -/
def ofValues (v : SettingKey → Value) : Except SettingsError Settings := do
  let spaces ← width? (v .spaces)
  let useTabs ← flag? .useTabs (v .useTabs)
  let trailingSemicolons ← flag? .trailingSemicolons (v .trailingSemicolons)
  let hostModule ← filled? .hostModule (v .hostModule)
  let primaryKeyType ← filled? .primaryKeyType (v .primaryKeyType)
  let rollupTypeName ← filled? .rollupTypeName (v .rollupTypeName)
  let systemPrefix ← text? (v .systemPrefix)
  return {
    spaces := spaces.val
    useTabs
    trailingSemicolons
    hostModule := hostModule.val
    primaryKeyType := primaryKeyType.val
    rollupTypeName := rollupTypeName.val
    systemPrefix
    outputFile := v .outputFile
    spaces_pos := spaces.property
    hostModule_ne := hostModule.property
    primaryKeyType_ne := primaryKeyType.property
    rollupTypeName_ne := rollupTypeName.property }

theorem width?_int {n : Nat} (h : 0 < n) : width? (.int n) = .ok ⟨n, h⟩ := by
  cases n with
  | zero => exact absurd h (Nat.lt_irrefl 0)
  | succ n => rfl

theorem filled?_text (key : SettingKey) {s : String} (h : s ≠ "") :
    filled? key (.text s) = .ok ⟨s, h⟩ :=
  dif_pos h

/-- **Settings come back from their values.** -/
theorem ofValues_value (s : Settings) : ofValues s.value = .ok s := by
  unfold ofValues
  simp only [value, width?_int s.spaces_pos, filled?_text _ s.hostModule_ne,
    filled?_text _ s.primaryKeyType_ne, filled?_text _ s.rollupTypeName_ne]
  rfl

end Settings

/-- **What has been chosen** for some of the settings. -/
abbrev Choices := SettingKey → Option Value

namespace Choices

/-- Nothing chosen. -/
def none : Choices := fun _ => Option.none

/-- The choices with one more. -/
def choose (c : Choices) (key : SettingKey) (v : Value) : Choices :=
  fun k => if k = key then some v else c k

/-- **The choices with those of members**, a later one winning. The first
member that names no setting is reported. -/
def add (c : Choices) : List (String × Value) → Except SettingsError Choices
  | [] => .ok c
  | (name, v) :: rest =>
    match SettingKey.ofName? name with
    | some key => (c.choose key v).add rest
    | Option.none => .error (.unknown name)

/-- The values of all settings: what was chosen, else the default. -/
def values (c : Choices) (k : SettingKey) : Value :=
  (c k).getD k.default

/-- The settings that the choices make. -/
def settle (c : Choices) : Except SettingsError Settings :=
  Settings.ofValues c.values

theorem choose_same (c : Choices) (key : SettingKey) (v : Value) :
    c.choose key v key = some v := if_pos rfl

theorem choose_other (c : Choices) {key k : SettingKey} (h : k ≠ key) (v : Value) :
    c.choose key v k = c k := if_neg h

end Choices

/-- **Options as a caller gives them.** -/
inductive Options where
  /-- None at all. -/
  | absent
  /-- An object of settings. -/
  | members (ms : List (String × Value))
  /-- A value for every setting, not yet checked. -/
  | assigned (v : SettingKey → Value)
  /-- Something that is neither. -/
  | unsupported (kind : Kind)

namespace Options

/-- A loosely typed value as options. -/
def ofValue : Value → Options
  | .null => absent
  | .object ms => members ms
  | v => unsupported v.kind

/-- **The settings that options stand for.** -/
def settings : Options → Except SettingsError Settings
  | absent => .ok {}
  | members ms => do (← Choices.none.add ms).settle
  | assigned v => Settings.ofValues v
  | unsupported kind => .error (.notOptions kind)

end Options

end CollectionTypes
