import CollectionTypes.Proofs.Outcome
import CollectionTypes.Proofs.Readings
import CollectionTypes.Proofs.Source.Places
import CollectionTypes.Proofs.Value.ReadBack
import CollectionTypes.Settings.Storage
import Mathlib.Data.Fintype.Defs
import Mathlib.Data.Fintype.Basic

/-!
# What settings come to

An object says of a setting what the last of its members says that names the setting,
under either spelling (`said`). Where a file and overrides are put together, the
overrides come first, then the file, then the default (`merged`); and there are
settings of these values exactly if all members name settings and every value suits
its setting (`exists_mergedSettings_iff`). Nothing is checked before the two are put together,
so an unfit value in the file does no harm if it is replaced by a fit one
(`file_and_overrides_merge`).

Settings can be given as they are, as a value for each of them, or as an object
that assigns these values under any spellings and in any order: all forms come to the
same (`option_forms_agree`).
-/

namespace CollectionTypes

open Outcome

/-! ## Values that suit settings -/

/-- **Whether a value suits a setting**: a width is a whole number from one on, a flag is
yes or no, a name is a text that is not empty, and the mark of the host is any text. -/
def SettingKey.accepts (k : SettingKey) (v : Value) : Bool :=
  match k with
  | .spaces =>
    match v with
    | .int n => 1 ≤ n
    | _ => false
  | .useTabs | .trailingSemicolons =>
    match v with
    | .bool _ => true
    | _ => false
  | .hostModule | .primaryKeyType | .rollupTypeName =>
    match v with
    | .text s => s != ""
    | _ => false
  | .systemPrefix =>
    match v with
    | .text _ => true
    | _ => false
  | .outputFile => true

/-- The defaults suit their settings. -/
theorem SettingKey.accepts_default (k : SettingKey) : k.accepts k.default = true := by
  cases k <;> decide

namespace Settings

variable {v : SettingKey → Value} {s : Settings}

theorem width?_ok_iff {v : Value} {w : { n : Nat // 0 < n }} :
    width? v = .ok w ↔ v = .int w.val := by
  constructor
  · intro h
    unfold width? at h
    split at h
    · rw [← Except.ok.inj h]
      rfl
    · cases h
  · rintro rfl
    exact width?_int w.property

theorem flag?_ok_iff {key : SettingKey} {v : Value} {b : Bool} :
    flag? key v = .ok b ↔ v = .bool b := by
  cases v <;> simp [flag?]

theorem filled?_ok_iff {key : SettingKey} {v : Value} {s : { s : String // s ≠ "" }} :
    filled? key v = .ok s ↔ v = .text s.val := by
  constructor
  · intro h
    unfold filled? at h
    split at h
    · split at h
      · rw [← Except.ok.inj h]
      · cases h
    · cases h
  · rintro rfl
    exact filled?_text key s.property

theorem text?_ok_iff {v : Value} {s : String} : text? v = .ok s ↔ v = .text s := by
  cases v <;> simp [text?]

/-- **Settings are made of their own values**, and of no others. -/
theorem ofValues_ok_iff : ofValues v = .ok s ↔ s.value = v := by
  constructor
  · intro h
    obtain ⟨spaces, hspaces, h⟩ := bind_ok_iff.mp h
    obtain ⟨useTabs, huseTabs, h⟩ := bind_ok_iff.mp h
    obtain ⟨semicolons, hsemicolons, h⟩ := bind_ok_iff.mp h
    obtain ⟨hostModule, hhostModule, h⟩ := bind_ok_iff.mp h
    obtain ⟨keyType, hkeyType, h⟩ := bind_ok_iff.mp h
    obtain ⟨rollup, hrollup, h⟩ := bind_ok_iff.mp h
    obtain ⟨mark, hmark, h⟩ := bind_ok_iff.mp h
    rw [← Except.ok.inj h]
    funext k
    cases k with
    | spaces => exact (width?_ok_iff.mp hspaces).symm
    | useTabs => exact (flag?_ok_iff.mp huseTabs).symm
    | trailingSemicolons => exact (flag?_ok_iff.mp hsemicolons).symm
    | hostModule => exact (filled?_ok_iff.mp hhostModule).symm
    | primaryKeyType => exact (filled?_ok_iff.mp hkeyType).symm
    | rollupTypeName => exact (filled?_ok_iff.mp hrollup).symm
    | systemPrefix => exact (text?_ok_iff.mp hmark).symm
    | outputFile => rfl
  · rintro rfl
    exact ofValues_value s

/-- The values of settings suit them. -/
theorem accepts_value (s : Settings) (k : SettingKey) : k.accepts (s.value k) = true := by
  cases k with
  | spaces =>
    have hpos := s.spaces_pos
    exact decide_eq_true (by omega)
  | useTabs => rfl
  | trailingSemicolons => rfl
  | hostModule => exact bne_iff_ne.mpr s.hostModule_ne
  | primaryKeyType => exact bne_iff_ne.mpr s.primaryKeyType_ne
  | rollupTypeName => exact bne_iff_ne.mpr s.rollupTypeName_ne
  | systemPrefix => rfl
  | outputFile => rfl

/-! ### What suitable values look like -/

theorem eq_int_of_accepts {v : Value} (h : SettingKey.spaces.accepts v = true) :
    ∃ n : Nat, 0 < n ∧ v = .int n := by
  cases v with
  | int n =>
    have hn : 1 ≤ n := of_decide_eq_true h
    exact ⟨n.toNat, by omega, by rw [Int.toNat_of_nonneg (by omega)]⟩
  | _ => cases h

theorem eq_bool_of_accepts {v : Value} (h : SettingKey.useTabs.accepts v = true) :
    ∃ b, v = .bool b := by
  cases v with
  | bool b => exact ⟨b, rfl⟩
  | _ => cases h

theorem eq_filled_of_accepts {v : Value} (h : SettingKey.hostModule.accepts v = true) :
    ∃ s, s ≠ "" ∧ v = .text s := by
  cases v with
  | text s => exact ⟨s, bne_iff_ne.mp h, rfl⟩
  | _ => cases h

theorem eq_text_of_accepts {v : Value} (h : SettingKey.systemPrefix.accepts v = true) :
    ∃ s, v = .text s := by
  cases v with
  | text s => exact ⟨s, rfl⟩
  | _ => cases h

/-- **Settings can be made of values** exactly if every value suits its setting. -/
theorem exists_ofValues_iff :
    (∃ s, ofValues v = .ok s) ↔ ∀ k : SettingKey, k.accepts (v k) = true := by
  constructor
  · rintro ⟨s, hs⟩ k
    rw [← ofValues_ok_iff.mp hs]
    exact accepts_value s k
  · intro h
    obtain ⟨n, hn, hspaces⟩ := eq_int_of_accepts (h .spaces)
    obtain ⟨tabs, htabs⟩ := eq_bool_of_accepts (h .useTabs)
    obtain ⟨semicolons, hsemicolons⟩ := eq_bool_of_accepts (h .trailingSemicolons)
    obtain ⟨hostModule, hmodule, hhostModule⟩ := eq_filled_of_accepts (h .hostModule)
    obtain ⟨keyType, hkey, hkeyType⟩ := eq_filled_of_accepts (h .primaryKeyType)
    obtain ⟨rollup, hname, hrollup⟩ := eq_filled_of_accepts (h .rollupTypeName)
    obtain ⟨mark, hmark⟩ := eq_text_of_accepts (h .systemPrefix)
    refine ⟨⟨n, tabs, semicolons, hostModule, keyType, rollup, mark, v .outputFile,
      hn, hmodule, hkey, hname⟩, ofValues_ok_iff.mpr (funext fun k => ?_)⟩
    cases k with
    | spaces => exact hspaces.symm
    | useTabs => exact htabs.symm
    | trailingSemicolons => exact hsemicolons.symm
    | hostModule => exact hhostModule.symm
    | primaryKeyType => exact hkeyType.symm
    | rollupTypeName => exact hrollup.symm
    | systemPrefix => exact hmark.symm
    | outputFile => rfl

end Settings

/-! ## What members say -/

/-- A text names a setting under its two spellings, and under no others. -/
theorem SettingKey.ofName?_eq_some_iff {name : String} {k : SettingKey} :
    ofName? name = some k ↔ name = k.name ∨ name = k.camelName := by
  constructor
  · intro h
    unfold ofName? at h
    have hname := List.find?_some h
    simp only [Bool.or_eq_true, beq_iff_eq] at hname
    exact hname.imp Eq.symm Eq.symm
  · rintro (rfl | rfl)
    · exact ofName?_name k
    · exact ofName?_camelName k

/-- The settings that members name, each with what is said of it. -/
def namedSettings (ms : List (String × Value)) : List (SettingKey × Value) :=
  ms.filterMap fun m => (SettingKey.ofName? m.1).map fun k => (k, m.2)

/-- **What members say of the settings**: of each what the last of them says that names
it. -/
def said (ms : List (String × Value)) : Choices := fun k =>
  Table.lastOf k (namedSettings ms)

/-- **Members that all name settings**, under either spelling. -/
def AllNamed (ms : List (String × Value)) : Prop :=
  ∀ m ∈ ms, ∃ k : SettingKey, m.1 = k.name ∨ m.1 = k.camelName

/-- What comes of choices once members have their say. -/
theorem Choices.add_ok_iff {c c' : Choices} {ms : List (String × Value)} :
    c.add ms = .ok c' ↔ AllNamed ms ∧ c' = fun k => (said ms k).or (c k) := by
  simp only [AllNamed, ← SettingKey.ofName?_eq_some_iff]
  induction ms generalizing c with
  | nil =>
    constructor
    · intro h
      exact ⟨fun m hm => absurd hm List.not_mem_nil, (Except.ok.inj h).symm⟩
    · rintro ⟨-, rfl⟩
      rfl
  | cons m ms ih =>
    rw [Choices.add, List.forall_mem_cons]
    cases hname : SettingKey.ofName? m.1 with
    | none => simp
    | some key =>
      have hsaid : (fun k => (said (m :: ms) k).or (c k))
          = fun k => (said ms k).or (c.choose key m.2 k) := by
        funext k
        unfold said namedSettings
        rw [List.filterMap_cons, hname]
        show (Table.lastOf k ((key, m.2) :: _)).or _ = _
        rw [Table.lastOf_cons, Option.or_assoc]
        by_cases hk : k = key
        · rw [hk, Choices.choose_same, if_pos rfl]
          rfl
        · rw [Choices.choose_other c hk, if_neg (Ne.symm hk)]
          rfl
      show (c.choose key m.2).add ms = .ok c' ↔ _
      rw [ih, hsaid]
      simp

/-! ## A file and overrides -/

section Merging

variable {files : Files} {path : String} {ms : List (String × Value)}

/-- **The values of the settings that a file and overrides speak of**: the overrides
come first, then the file, then the default. -/
def merged (ms os : List (String × Value)) (k : SettingKey) : Value :=
  ((said os k).or (said ms k)).getD k.default

/-- The settings that a file and overrides make together. -/
def mergedSettings (ms os : List (String × Value)) : Except SettingsError Settings := do
  let chosen ← Choices.none.add ms
  let chosen ← chosen.add os
  chosen.settle

theorem mergedSettings_ok_iff {os : List (String × Value)} {s : Settings} :
    mergedSettings ms os = .ok s ↔ AllNamed ms ∧ AllNamed os ∧ s.value = merged ms os := by
  have hvalues : Choices.values (fun k => (said os k).or ((said ms k).or (Choices.none k)))
      = merged ms os := by
    funext k
    show ((said os k).or ((said ms k).or Option.none)).getD k.default = _
    rw [Option.or_none]
    rfl
  unfold mergedSettings
  simp only [bind_ok_iff, Choices.add_ok_iff]
  constructor
  · rintro ⟨_, ⟨hms, rfl⟩, _, ⟨hos, rfl⟩, h⟩
    exact ⟨hms, hos, (Settings.ofValues_ok_iff.mp h).trans hvalues⟩
  · rintro ⟨hms, hos, h⟩
    exact ⟨_, ⟨hms, rfl⟩, _, ⟨hos, rfl⟩, Settings.ofValues_ok_iff.mpr (h.trans hvalues.symm)⟩

/-- An object overrides choices with what it says. -/
theorem overriddenBy_object (c : Choices) (os : List (String × Value)) :
    overriddenBy c (.object os) = (c.add os).mapError .settings := by
  cases os with
  | nil => rfl
  | cons m os => rfl

/-- What a file that can be read chooses. -/
theorem choicesOfFile_of_read (hread : readSettingsFile files (.ofString path) = .ok ms) :
    choicesOfFile files (.text path) = (Choices.none.add ms).mapError .settings := by
  have hpath : path ≠ "" := by
    rintro rfl
    have hnone : readSettingsFile files (.ofString "") = .error (.notJson (.ofString "")) := by rfl
    rw [hnone] at hread
    cases hread
  have hname : (pathOf (.text path)).mapError StorageError.misuse = .ok (.ofString path) := rfl
  unfold choicesOfFile
  rw [if_pos (show (Value.text path).truthy = true from bne_iff_ne.mpr hpath), hname]
  show (readSettingsFile files (.ofString path) >>= _) = _
  rw [hread]
  rfl

/-- **Settings from a file and from overrides** are those that both make together, and
nothing else goes wrong than what is wrong with settings. -/
theorem loadSettings_of_read (hread : readSettingsFile files (.ofString path) = .ok ms)
    (os : List (String × Value)) :
    loadSettings files (.object os) (.text path) = (mergedSettings ms os).mapError .settings := by
  unfold loadSettings mergedSettings
  rw [choicesOfFile_of_read hread]
  cases Choices.none.add ms with
  | error e => rfl
  | ok c =>
    show overriddenBy c (.object os) >>= _ = _
    rw [overriddenBy_object]
    show _ = (c.add os >>= _).mapError _
    cases c.add os with
    | error e => rfl
    | ok c' => rfl

/-- **Members that make no settings together**: one of them names no setting, or a value
that they come to does not suit its setting. -/
def Unfit (ms os : List (String × Value)) : Prop :=
  (∃ m ∈ ms ++ os, ∀ k : SettingKey, m.1 ≠ k.name ∧ m.1 ≠ k.camelName)
    ∨ ∃ k : SettingKey, k.accepts (merged ms os k) = false

theorem allNamed_append {os : List (String × Value)} :
    AllNamed (ms ++ os) ↔ AllNamed ms ∧ AllNamed os :=
  List.forall_mem_append

theorem not_unfit_iff {os : List (String × Value)} :
    ¬ Unfit ms os
      ↔ AllNamed (ms ++ os) ∧ ∀ k : SettingKey, k.accepts (merged ms os k) = true := by
  unfold Unfit AllNamed
  rw [not_or]
  refine and_congr ?_ ?_
  · rw [not_exists]
    refine forall_congr' fun m => ?_
    rw [not_and]
    refine forall_congr' fun _ => ?_
    rw [not_forall]
    exact exists_congr fun k => (or_iff_not_and_not).symm
  · rw [not_exists]
    exact forall_congr' fun k => Bool.not_eq_false _ ▸ Iff.rfl

theorem exists_mergedSettings_iff {os : List (String × Value)} :
    (∃ s, mergedSettings ms os = .ok s) ↔ ¬ Unfit ms os := by
  rw [not_unfit_iff, allNamed_append, and_assoc, ← Settings.exists_ofValues_iff]
  simp only [mergedSettings_ok_iff, Settings.ofValues_ok_iff, exists_and_left]

/-- Where the file says what does not suit, it is up to the overrides. -/
theorem accepts_merged_iff {os : List (String × Value)} {k : SettingKey} {v : Value}
    (hv : said ms k = some v) (hunfit : k.accepts v = false) :
    k.accepts (merged ms os k) = true ↔ ∃ w, said os k = some w ∧ k.accepts w = true := by
  unfold merged
  rw [hv]
  cases said os k with
  | none => simp [hunfit]
  | some w => simp

/-- **A file and overrides put together.** They make no settings exactly if some member
names no setting or some value, once put together, does not suit its setting; otherwise the
settings have the values put together. An unfit value in the file, all else being well, does no
harm exactly if the overrides replace it by a fit one. -/
theorem file_and_overrides_merge (hread : readSettingsFile files (.ofString path) = .ok ms)
    (os : List (String × Value)) :
    ((∃ e, loadSettings files (.object os) (.text path) = .error (.settings e)) ↔ Unfit ms os)
    ∧ (¬ Unfit ms os → ∃ s, loadSettings files (.object os) (.text path) = .ok s
        ∧ ∀ k, s.value k = ((said os k).or (said ms k)).getD k.default)
    ∧ ∀ k v, said ms k = some v → k.accepts v = false → AllNamed (ms ++ os) →
        (∀ j, j ≠ k → j.accepts (merged ms os j) = true) →
        ((∃ s, loadSettings files (.object os) (.text path) = .ok s)
          ↔ ∃ w, said os k = some w ∧ k.accepts w = true) := by
  have hload := loadSettings_of_read hread os
  have hok : ∀ s, loadSettings files (.object os) (.text path) = .ok s
      ↔ mergedSettings ms os = .ok s := fun s => by rw [hload, mapError_ok_iff]
  refine ⟨?_, fun hfit => ?_, fun k v hv hunfit hnamed hothers => ?_⟩
  · rw [← not_iff_not, ← exists_mergedSettings_iff, hload]
    cases mergedSettings ms os with
    | error e => simp [Except.mapError]
    | ok s => simp [Except.mapError]
  · obtain ⟨s, hs⟩ := exists_mergedSettings_iff.mpr hfit
    exact ⟨s, (hok s).mpr hs, congrFun (mergedSettings_ok_iff.mp hs).2.2⟩
  · simp only [hok]
    rw [exists_mergedSettings_iff, not_unfit_iff, and_iff_right hnamed, ← accepts_merged_iff hv hunfit]
    refine ⟨fun h => h k, fun h j => ?_⟩
    by_cases hj : j = k
    · exact hj ▸ h
    · exact hothers j hj

/-! ### A flag that is mended -/

/-- **A file says what was written** in it, if writing keeps that. -/
theorem readSettingsFile_of_written {path : Path} (hnul : path.hasNul = false)
    (hjson : path.isJson = true) (hkept : (Value.object ms).Kept Reader.maxDepth)
    (hcontent : files.content path = .ok (.text (Value.object ms).write)) :
    readSettingsFile files path = .ok ms := by
  have hhas := Files.has_of_content hnul hcontent
  have hread : (Content.text (Value.object ms).write).read
      = .ok (Value.object ms).write.toList := by
    have hlines : '\r' ∉ (Value.object ms).write.toList := by
      rw [Value.write, String.toList_ofList]
      exact hkept.return_notMem 0
    exact congrArg Except.ok (Text.unifyLineEnds_of_no_return hlines)
  unfold readSettingsFile
  refine bind_ok_iff.mpr ⟨true, mapError_ok_iff.mpr hhas, ?_⟩
  rw [hjson, Bool.not_true, if_neg Bool.false_ne_true, if_neg Bool.false_ne_true]
  exact bind_ok_iff.mpr ⟨_, mapError_ok_iff.mpr hcontent,
    bind_ok_iff.mpr ⟨_, mapError_ok_iff.mpr hread,
      bind_ok_iff.mpr ⟨_, mapError_ok_iff.mpr (Value.readChars_write hkept), rfl⟩⟩⟩

instance : Fintype SettingKey := ⟨⟨SettingKey.all, by decide⟩, SettingKey.mem_all⟩

instance (ms : List (String × Value)) : Decidable (AllNamed ms) :=
  inferInstanceAs (Decidable (∀ m ∈ ms, _))

/-- A settings file with a number for a flag. -/
def mendable : Files where
  nodes := [(["conf.json"],
    .file (.text (Value.object [("useTabs", .int 1), ("spaces", .int 3)]).write))]

/-- The flag of the file does no harm, since it is overridden under its other spelling. -/
theorem unfit_flag_is_overridden :
    readSettingsFile mendable (.ofString "conf.json") = .ok [("useTabs", .int 1), ("spaces", .int 3)]
    ∧ SettingKey.useTabs.accepts (.int 1) = false
    ∧ ∃ s, loadSettings mendable (.object [("use_tabs", .bool true)]) (.text "conf.json") = .ok s
        ∧ s.useTabs = true ∧ s.spaces = 3 := by
  have hkept : (Value.object [("useTabs", .int 1), ("spaces", .int 3)]).Kept Reader.maxDepth := by
    refine .object (by decide) ?_
    simp only [List.forall_mem_cons]
    exact ⟨.int (by decide), .int (by decide), fun m hm => absurd hm List.not_mem_nil⟩
  have hread : readSettingsFile mendable (.ofString "conf.json")
      = .ok [("useTabs", .int 1), ("spaces", .int 3)] :=
    readSettingsFile_of_written (by decide) (by decide) hkept rfl
  obtain ⟨hunfit, hloads, hmends⟩ := file_and_overrides_merge hread [("use_tabs", .bool true)]
  have hmended := (hmends .useTabs (.int 1) rfl rfl (by decide) (by decide +kernel)).mpr
    ⟨.bool true, rfl, rfl⟩
  have hfit : ¬ Unfit [("useTabs", .int 1), ("spaces", .int 3)] [("use_tabs", .bool true)] := by
    intro h
    obtain ⟨e, he⟩ := hunfit.mpr h
    obtain ⟨s, hs⟩ := hmended
    rw [he] at hs
    cases hs
  obtain ⟨s, hs, hvalues⟩ := hloads hfit
  refine ⟨hread, rfl, s, hs, ?_, ?_⟩
  · exact Value.bool.inj (hvalues .useTabs)
  · have hspaces := Value.int.inj ((hvalues .spaces).trans (by rfl : _ = Value.int 3))
    exact Int.ofNat.inj hspaces

end Merging

/-! ## Forms of options -/

/-- **Members that assign a value to every setting**, each under one of its spellings, in
any order. -/
def Assigns (ms : List (String × Value)) (v : SettingKey → Value) : Prop :=
  ∃ spelling : SettingKey → String,
    (∀ k, spelling k = k.name ∨ spelling k = k.camelName)
      ∧ ms.Perm (SettingKey.all.map fun k => (spelling k, v k))

variable {ms : List (String × Value)} {v : SettingKey → Value}

theorem Assigns.allNamed (h : Assigns ms v) : AllNamed ms := by
  obtain ⟨spelling, hspelling, hperm⟩ := h
  intro m hm
  obtain ⟨k, -, rfl⟩ := List.mem_map.mp (hperm.mem_iff.mp hm)
  exact ⟨k, hspelling k⟩

/-- What is assigned to a setting is what is said of it. -/
theorem Assigns.said_eq (h : Assigns ms v) (k : SettingKey) : said ms k = some (v k) := by
  obtain ⟨spelling, hspelling, hperm⟩ := h
  have hnamed : namedSettings (SettingKey.all.map fun k => (spelling k, v k))
      = SettingKey.all.map fun k => (k, v k) := by
    unfold namedSettings
    rw [List.filterMap_map, ← List.filterMap_eq_map]
    refine List.filterMap_congr fun k _ => ?_
    show (SettingKey.ofName? (spelling k)).map (fun k' => (k', v k)) = _
    rw [SettingKey.ofName?_eq_some_iff.mpr (hspelling k)]
    rfl
  have hperm' : (namedSettings ms).Perm (SettingKey.all.map fun k => (k, v k)) :=
    hnamed ▸ hperm.filterMap _
  -- no setting is named twice, so the order does not matter
  have hdistinct : ((namedSettings ms).map Prod.fst).Nodup := by
    refine (hperm'.map Prod.fst).nodup_iff.mpr ?_
    rw [List.map_map]
    show (SettingKey.all.map id).Nodup
    rw [List.map_id]
    decide
  unfold said Table.lastOf
  rw [Table.lookup_eq_some_iff (by rwa [List.map_reverse, List.nodup_reverse]), List.mem_reverse,
    hperm'.mem_iff]
  exact List.mem_map_of_mem (SettingKey.mem_all k)

/-- An object that assigns values stands for the settings of these values. -/
theorem Assigns.settings_eq (h : Assigns ms v) :
    (Options.members ms).settings = (Options.assigned v).settings := by
  have hchosen : Choices.none.add ms = .ok fun k => some (v k) := by
    refine Choices.add_ok_iff.mpr ⟨h.allNamed, funext fun k => ?_⟩
    rw [h.said_eq]
    rfl
  show (Choices.none.add ms >>= Choices.settle) = _
  rw [hchosen]
  rfl

/-- **All forms of options agree.** An object that assigns the values of settings, under
whatever spellings and in whatever order, stands for the same settings as these values, or
is wrong where they are; settings have the values that they were given; and whatever
options stand for stands for itself. -/
theorem option_forms_agree (v : SettingKey → Value) :
    (∀ ms, Assigns ms v → (Options.members ms).settings = (Options.assigned v).settings)
    ∧ (∀ s, (Options.assigned v).settings = .ok s → s.value = v)
    ∧ ∀ (o : Options) (s : Settings), o.settings = .ok s →
        (Options.assigned s.value).settings = .ok s :=
  ⟨fun _ h => h.settings_eq, fun _ h => Settings.ofValues_ok_iff.mp h,
    fun _ s _ => Settings.ofValues_value s⟩

/-- Values of settings, the mark of the host being empty. -/
def unmarkedValues : SettingKey → Value
  | .systemPrefix => .text ""
  | .outputFile => .text "types.ts"
  | k => k.default

/-- Where they are not the defaults, they suit their settings all the same. -/
theorem accepts_unmarkedValues (k : SettingKey) : k.accepts (unmarkedValues k) = true := by
  cases k with
  | systemPrefix => rfl
  | outputFile => rfl
  | _ => exact SettingKey.accepts_default _

/-- The settings in capitals and in reverse order are the settings all the same. -/
theorem reversed_options_agree :
    Assigns (SettingKey.all.reverse.map fun k => (k.camelName, unmarkedValues k)) unmarkedValues
    ∧ ∃ s, (Options.members (SettingKey.all.reverse.map fun k =>
          (k.camelName, unmarkedValues k))).settings = .ok s
        ∧ s.value = unmarkedValues ∧ (Options.assigned s.value).settings = .ok s := by
  have hassigns : Assigns (SettingKey.all.reverse.map fun k => (k.camelName, unmarkedValues k))
      unmarkedValues :=
    ⟨SettingKey.camelName, fun _ => .inr rfl, (List.reverse_perm _).map _⟩
  obtain ⟨hforms, hvalues, hkept⟩ := option_forms_agree unmarkedValues
  obtain ⟨s, hs⟩ := Settings.exists_ofValues_iff.mpr
    (fun k => accepts_unmarkedValues k)
  have hmembers := (hforms _ hassigns).trans hs
  exact ⟨hassigns, s, hmembers, hvalues s hs, hkept _ s hmembers⟩

end CollectionTypes
