import CollectionTypes.Value.Basic

/-!
# The keys of the settings

Eight settings shape a document. Each has a name in small letters and
underscores; those of more than one word have a second spelling with inner
capitals. `SettingKey.ofName?` takes either, and nothing else.
-/

namespace CollectionTypes

/-- **A setting.** -/
inductive SettingKey where
  | spaces
  | useTabs
  | trailingSemicolons
  | hostModule
  | primaryKeyType
  | rollupTypeName
  | systemPrefix
  | outputFile
  deriving DecidableEq, Repr

namespace SettingKey

/-- The settings, in the order in which they are written down. -/
def all : List SettingKey :=
  [spaces, useTabs, trailingSemicolons, hostModule, primaryKeyType, rollupTypeName,
    systemPrefix, outputFile]

/-- The name of a setting. -/
def name : SettingKey → String
  | spaces => "spaces"
  | useTabs => "use_tabs"
  | trailingSemicolons => "trailing_semicolons"
  | hostModule => "host_module"
  | primaryKeyType => "primary_key_type"
  | rollupTypeName => "rollup_type_name"
  | systemPrefix => "system_prefix"
  | outputFile => "output_file"

/-- The second spelling of a setting; the one-word setting has just its
name. -/
def camelName : SettingKey → String
  | spaces => "spaces"
  | useTabs => "useTabs"
  | trailingSemicolons => "trailingSemicolons"
  | hostModule => "hostModule"
  | primaryKeyType => "primaryKeyType"
  | rollupTypeName => "rollupTypeName"
  | systemPrefix => "systemPrefix"
  | outputFile => "outputFile"

/-- **The setting that a text names**, under either spelling. -/
def ofName? (s : String) : Option SettingKey :=
  all.find? fun k => k.name == s || k.camelName == s

/-- The value of a setting that nothing is said about. -/
def default : SettingKey → Value
  | spaces => .int 2
  | useTabs => .bool false
  | trailingSemicolons => .bool false
  | hostModule => .text "@directus/types"
  | primaryKeyType => .text "PrimaryKey"
  | rollupTypeName => .text "CustomDirectusTypes"
  | systemPrefix => .text "directus_"
  | outputFile => .null

theorem mem_all (k : SettingKey) : k ∈ all := by
  cases k <;> decide

@[simp] theorem ofName?_name (k : SettingKey) : ofName? k.name = some k := by
  cases k <;> decide

@[simp] theorem ofName?_camelName (k : SettingKey) : ofName? k.camelName = some k := by
  cases k <;> decide

end SettingKey

end CollectionTypes
