import CollectionTypes.Proofs.Settings.Saved
import CollectionTypes.Proofs.Source.Places

/-!
# Saved settings are loaded again

Settings are saved as an object that assigns each setting its value, under its name. Writing
keeps that object (`Settings.kept_toValue`), so what is read from the file is what was saved,
and it makes the same settings (`saved_settings_reload`).
-/

namespace CollectionTypes

open Outcome

variable {files files' : Files} {s : Settings}

/-- The members that settings are saved as. -/
def Settings.members (s : Settings) : List (String × Value) :=
  SettingKey.all.map fun k => (k.name, s.value k)

/-- They assign the settings their values. -/
theorem Settings.assigns_members (s : Settings) : Assigns s.members s.value :=
  ⟨SettingKey.name, fun _ => .inl rfl, .refl _⟩

/-- **Writing keeps settings** that can be written and go to a file or nowhere. -/
theorem Settings.kept_toValue (s : Settings) (hwritable : s.toValue.isWritable = true)
    (houtput : s.outputFile = .null ∨ ∃ name, s.outputFile = .text name) :
    s.toValue.Kept Reader.maxDepth := by
  have hvalues := s.isWritable_toValue_iff.mp hwritable
  have hkept : ∀ (k : SettingKey) (depth : Nat), (s.value k).Kept depth := by
    intro k depth
    cases k with
    | spaces => exact .int (hvalues .spaces)
    | useTabs => exact .bool s.useTabs
    | trailingSemicolons => exact .bool s.trailingSemicolons
    | hostModule => exact .text s.hostModule
    | primaryKeyType => exact .text s.primaryKeyType
    | rollupTypeName => exact .text s.rollupTypeName
    | systemPrefix => exact .text s.systemPrefix
    | outputFile =>
      show s.outputFile.Kept depth
      rcases houtput with h | ⟨name, h⟩
      · exact h ▸ .null
      · exact h ▸ .text name
  refine .object ?_ (List.forall_mem_map.mpr fun k _ => hkept k _)
  rw [List.map_map]
  exact (by decide : (SettingKey.all.map SettingKey.name).Nodup)

/-- What was saved is what the file says. -/
theorem readSettingsFile_of_saved {path : Path}
    (houtput : s.outputFile = .null ∨ ∃ name, s.outputFile = .text name)
    (hjson : path.isJson = true) (hsaved : saveSettings files s path = .ok files') :
    readSettingsFile files' path = .ok s.members := by
  obtain ⟨hnul, hwritable, hwrite⟩ := saveSettings_ok_iff.mp hsaved
  exact readSettingsFile_of_written hnul hjson (s.kept_toValue hwritable houtput)
    (Files.content_write_self hwrite)

/-- **Saved settings reload**: what is loaded from where settings were saved are these settings
again, whatever was there before and whatever is in their texts. -/
theorem saved_settings_reload {path : String}
    (houtput : s.outputFile = .null ∨ ∃ name, s.outputFile = .text name)
    (hjson : (Path.ofString path).isJson = true)
    (hsaved : saveSettings files s (.ofString path) = .ok files') :
    loadSettings files' .null (.text path) = .ok s := by
  have hassigns := s.assigns_members
  have hread := readSettingsFile_of_saved houtput hjson hsaved
  have hmerged : mergedSettings s.members [] = .ok s := by
    have hnone : AllNamed [] := fun m hm => absurd hm List.not_mem_nil
    refine mergedSettings_ok_iff.mpr ⟨hassigns.allNamed, hnone, funext fun k => ?_⟩
    unfold merged
    rw [hassigns.said_eq]
    rfl
  have hload : loadSettings files' (.object []) (.text path) = .ok s := by
    rw [loadSettings_of_read hread, hmerged]
    rfl
  exact hload

/-- Settings with much to escape in their texts, and a very large width. -/
def outlandish : Settings :=
  { (default : Settings) with
    spaces := 340282366920938463463374607431768211456
    hostModule := "a\"b\\c/d\r\n\t\x07e"
    systemPrefix := ""
    outputFile := .text "Übersicht\x85.ts"
    spaces_pos := by decide
    hostModule_ne := by decide }

/-- A settings file that holds no settings. -/
def misplaced : Files where
  nodes := [(["conf.JSON"], .file (.text "[1, 2"))]

/-- Once it is replaced, the settings come back. -/
theorem outlandish_settings_reload :
    ∃ files, saveSettings misplaced outlandish (.ofString "conf.JSON") = .ok files
      ∧ loadSettings files .null (.text "conf.JSON") = .ok outlandish := by
  have hleads : misplaced.Leads (.ofString "conf.JSON") ["conf.JSON"] := by rfl
  have hfree : misplaced.writeFault? ["conf.JSON"] = none := by decide +kernel
  have hsaved := saveSettings_ok_iff.mpr ⟨(by decide : (Path.ofString "conf.JSON").hasNul = false),
    (by decide +kernel : outlandish.toValue.isWritable = true),
    Files.write_ok_iff.mpr ⟨_, hleads, hfree, rfl⟩⟩
  exact ⟨_, hsaved, saved_settings_reload (.inr ⟨_, rfl⟩) (by decide +kernel) hsaved⟩

end CollectionTypes
