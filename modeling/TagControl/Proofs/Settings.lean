import TagControl.Proofs.Codec
import TagControl.Proofs.Config
/-!
What is loaded and saved as the configuration, for any content of the store. Nothing but a valid
configuration is loaded: an entry that is too long or that cannot be read is corrupted, one that
breaks a rule is refused with the complaint about it, and without an entry the standard
configuration holds. Saving succeeds exactly on a valid configuration, which is then loaded, and
touches no other entry; saving an invalid one changes nothing.
-/

set_option autoImplicit false

namespace TagControl

namespace Config

theorem validate_standard : validate {} = .ok () := by
  decide

/-- The only complaint about a configuration is that it breaks a rule. -/
theorem invalid_of_validate_eq_error {config : Config} {reason : ConfigError}
    (hvalidate : config.validate = .error reason) : ∃ problem, reason = .invalid problem := by
  rw [validate] at hvalidate
  split at hvalidate
  · cases hvalidate
  · next problem _ =>
    cases hvalidate
    exact ⟨problem, rfl⟩

end Config

namespace Store

/-- The name of the configuration's entry. -/
def configName : String :=
  entryName configSpace configKey

variable {store : Store} {data : List UInt8}

/-! ### Loading -/

theorem loadConfig_of_absent (hentry : store.get? configName = none) :
    store.loadConfig.value = .ok {} := by
  rw [loadConfig, read_of_get?_eq_none hentry]
  rfl

theorem loadConfig_of_long (hentry : store.get? configName = some data)
    (hlong : configCapacity < data.length) : store.loadConfig.value = .error .corrupted := by
  rw [loadConfig, read_of_get?_eq_some hentry, if_pos hlong]
  rfl

theorem loadConfig_of_unreadable (hentry : store.get? configName = some data)
    (hdecode : Config.decode data = none) : store.loadConfig.value = .error .corrupted := by
  by_cases hlong : configCapacity < data.length
  · exact loadConfig_of_long hentry hlong
  · rw [loadConfig, read_of_get?_eq_some hentry, if_neg hlong]
    simp only [hdecode]
    rfl

/-- An entry that can be read is loaded if its configuration is valid. -/
theorem loadConfig_of_readable (hentry : store.get? configName = some data)
    (hfits : data.length ≤ configCapacity) {config : Config} {rest : List UInt8}
    (hdecode : Config.decode data = some (config, rest)) :
    store.loadConfig.value = config.validate.map fun _ ↦ config := by
  rw [loadConfig, read_of_get?_eq_some hentry, if_neg (Nat.not_lt.mpr hfits)]
  cases hvalidate : config.validate with
  | error reason =>
    simp only [hdecode, hvalidate]
    rfl
  | ok done =>
    simp only [hdecode, hvalidate]
    rfl

/-- An entry is corrupted exactly if it is too long or cannot be read, refused exactly if its
configuration breaks a rule, and loaded otherwise. -/
theorem loadConfig_of_present (hentry : store.get? configName = some data) :
    (store.loadConfig.value = .error .corrupted ↔
      configCapacity < data.length ∨ Config.decode data = none) ∧
    (∀ problem, store.loadConfig.value = .error (.invalid problem) ↔
      data.length ≤ configCapacity ∧ ∃ config rest, Config.decode data = some (config, rest) ∧
        config.validate = .error (.invalid problem)) ∧
    ∀ config, store.loadConfig.value = .ok config ↔
      data.length ≤ configCapacity ∧ ∃ rest, Config.decode data = some (config, rest) ∧
        config.validate = .ok () := by
  rcases Nat.lt_or_ge configCapacity data.length with hlong | hfits
  · rw [loadConfig_of_long hentry hlong]
    simp [hlong, Nat.not_le.mpr hlong]
  cases hdecode : Config.decode data with
  | none =>
    rw [loadConfig_of_unreadable hentry hdecode]
    simp
  | some found =>
    obtain ⟨config, rest⟩ := found
    rw [loadConfig_of_readable hentry hfits hdecode]
    cases hvalidate : config.validate with
    | error reason =>
      obtain ⟨problem, rfl⟩ := Config.invalid_of_validate_eq_error hvalidate
      simp [Except.map, hfits, Nat.not_lt.mpr hfits, hvalidate]
    | ok done =>
      simp [Except.map, hfits, Nat.not_lt.mpr hfits, hvalidate]

theorem validate_of_loadConfig {config : Config} (hload : store.loadConfig.value = .ok config) :
    config.validate = .ok () := by
  cases hentry : store.get? configName with
  | none =>
    rw [loadConfig_of_absent hentry] at hload
    cases hload
    exact Config.validate_standard
  | some data =>
    obtain ⟨-, -, hloaded⟩ := loadConfig_of_present hentry
    obtain ⟨-, rest, -, hvalid⟩ := (hloaded config).mp hload
    exact hvalid

/-! ### Saving -/

theorem saveConfig_of_valid {config : Config} (hvalid : config.validate = .ok ()) :
    ((saveConfig config).run store).value = (.ok (), store.insert configName config.encode) := by
  rw [saveConfig, hvalid]
  rfl

theorem saveConfig_of_invalid {config : Config} {reason : ConfigError}
    (hinvalid : config.validate = .error reason) :
    ((saveConfig config).run store).value = (.error reason, store) := by
  rw [saveConfig, hinvalid]
  rfl

/-- What has been saved is loaded. -/
theorem loadConfig_insert_encode {config : Config} (hvalid : config.validate = .ok ()) :
    (store.insert configName config.encode).loadConfig.value = .ok config := by
  have hentry : (store.insert configName config.encode).get? configName = some config.encode := by
    rw [get?_insert, if_pos rfl]
  have hfits : config.encode.length ≤ configCapacity :=
    (Config.length_encode_le config).trans (by decide)
  have hdecode : Config.decode config.encode = some (config, []) := by
    simpa using Config.decode_encode config []
  rw [loadConfig_of_readable hentry hfits hdecode, hvalid]
  rfl

/-- Whatever the store holds, only a valid configuration is loaded: the standard one without an
entry, and otherwise that of an entry which is neither too long nor unreadable nor against a rule.
A configuration is saved exactly if it is valid; then it is loaded and every other entry is as
before. A configuration that is refused changes nothing. What was loaded can be saved again and is
then still loaded, however its old entry was written. -/
theorem configuration_persists (store : Store) :
    (∀ config, store.loadConfig.value = .ok config → config.validate = .ok ()) ∧
    (store.get? configName = none → store.loadConfig.value = .ok {}) ∧
    (∀ data, store.get? configName = some data →
      (store.loadConfig.value = .error .corrupted ↔
        configCapacity < data.length ∨ Config.decode data = none) ∧
      (∀ problem, store.loadConfig.value = .error (.invalid problem) ↔
        data.length ≤ configCapacity ∧ ∃ config rest, Config.decode data = some (config, rest) ∧
          config.validate = .error (.invalid problem)) ∧
      ∀ config, store.loadConfig.value = .ok config ↔
        data.length ≤ configCapacity ∧ ∃ rest, Config.decode data = some (config, rest) ∧
          config.validate = .ok ()) ∧
    (∀ config, let saved := ((saveConfig config).run store).value
      (saved.1 = .ok () ↔ config.validate = .ok ()) ∧
      (saved.1 = .ok () → saved.2.loadConfig.value = .ok config ∧
        ∀ name, name ≠ configName → saved.2.get? name = store.get? name) ∧
      ∀ reason, saved.1 = .error reason → config.validate = .error reason ∧ saved.2 = store) ∧
    ∀ config, store.loadConfig.value = .ok config →
      let saved := ((saveConfig config).run store).value
      saved.1 = .ok () ∧ saved.2.loadConfig.value = .ok config := by
  refine ⟨fun config ↦ validate_of_loadConfig, loadConfig_of_absent,
    fun data ↦ loadConfig_of_present, fun config ↦ ?_, fun config hload ↦ ?_⟩
  · cases hvalidate : config.validate with
    | error reason =>
      rw [saveConfig_of_invalid hvalidate]
      exact ⟨by simp, nofun, fun reason hreason ↦ ⟨hreason, rfl⟩⟩
    | ok done =>
      rw [saveConfig_of_valid hvalidate]
      refine ⟨by simp, fun _ ↦ ⟨loadConfig_insert_encode hvalidate, fun name hname ↦ ?_⟩, nofun⟩
      rw [get?_insert, if_neg hname]
  · have hvalid := validate_of_loadConfig hload
    rw [saveConfig_of_valid hvalid]
    exact ⟨rfl, loadConfig_insert_encode hvalid⟩

/-- A padded entry with a byte behind it is loaded, and saving what was loaded writes it anew. -/
theorem padded_standard_saved_anew :
    let store := ({} : Store).insert configName Config.paddedStandard
    let saved := ((saveConfig {}).run store).value
    store.loadConfig.value = .ok {} ∧ saved.1 = .ok () ∧ saved.2.loadConfig.value = .ok {} ∧
      saved.2 ≠ store := by
  intro store saved
  obtain ⟨-, -, hpresent, -, hagain⟩ := configuration_persists store
  have hentry : store.get? configName = some Config.paddedStandard := by
    rw [get?_insert, if_pos rfl]
  obtain ⟨-, -, hloaded⟩ := hpresent Config.paddedStandard hentry
  have hload : store.loadConfig.value = .ok {} :=
    (hloaded {}).mpr ⟨by decide, [7], by decide, by decide⟩
  obtain ⟨hsaved, hsame⟩ := hagain {} hload
  exact ⟨hload, hsaved, hsame, by decide⟩

end Store

end TagControl
