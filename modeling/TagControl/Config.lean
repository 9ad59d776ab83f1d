import TagControl.Time
/-!
The controller's configuration: the lengths of its windows and delays, the two button times and
the limit on start-up. A configuration is valid when every field lies in its range and the
debounce time is shorter than the hold that asks for recovery mode; `Config.problem?` names the
first rule that is broken.
-/

set_option autoImplicit false

namespace TagControl

structure Config where
  recoveryMinutes : UInt16 := 1
  identificationMinutes : UInt16 := 5
  dfuMinutes : UInt16 := 1
  /-- Time between the first account key and the completed provisioning. -/
  provisioningMinutes : UInt16 := 5
  /-- Delay before a reset after the keys and the provisioning state disagreed. -/
  mismatchSeconds : UInt16 := 3
  recoveryHoldMillis : UInt32 := 3000
  debounceMillis : UInt32 := 50
  startupSeconds : UInt16 := 60
deriving DecidableEq, Inhabited

inductive ConfigError where
  | notFound
  | corrupted
  | invalid (problem : String)
  | storageFull
  | io
deriving DecidableEq

def ConfigError.message : ConfigError → String
  | notFound => "config not found"
  | corrupted => "config corrupted"
  | invalid problem => "validation failed: " ++ problem
  | storageFull => "storage full"
  | io => "I/O error"

namespace Config

def recoveryWindow (config : Config) : Duration :=
  .ofMinutes config.recoveryMinutes.toNat

def identificationWindow (config : Config) : Duration :=
  .ofMinutes config.identificationMinutes.toNat

def dfuWindow (config : Config) : Duration :=
  .ofMinutes config.dfuMinutes.toNat

def provisioningLimit (config : Config) : Duration :=
  .ofMinutes config.provisioningMinutes.toNat

def mismatchDelay (config : Config) : Duration :=
  .ofSeconds config.mismatchSeconds.toNat

def startupLimit (config : Config) : Duration :=
  .ofSeconds config.startupSeconds.toNat

/-- The rules of a valid configuration in the order in which they are checked, each with the
complaint about a configuration that breaks it. -/
def rules (config : Config) : List (Bool × String) :=
  [(1 ≤ config.recoveryMinutes && config.recoveryMinutes ≤ 60,
      "recovery_mode_timeout_min must be 1–60"),
    (1 ≤ config.identificationMinutes && config.identificationMinutes ≤ 60,
      "id_mode_timeout_min must be 1–60"),
    (1 ≤ config.dfuMinutes && config.dfuMinutes ≤ 30,
      "dfu_mode_timeout_min must be 1–30"),
    (1 ≤ config.provisioningMinutes && config.provisioningMinutes ≤ 60,
      "provisioning_timeout_min must be 1–60"),
    (1 ≤ config.mismatchSeconds && config.mismatchSeconds ≤ 60,
      "key_mismatch_reset_delay_secs must be 1–60"),
    (500 ≤ config.recoveryHoldMillis && config.recoveryHoldMillis ≤ 10000,
      "recovery_button_min_hold_ms must be 500–10000"),
    (10 ≤ config.debounceMillis && config.debounceMillis ≤ 500,
      "button_debounce_ms must be 10–500"),
    (config.debounceMillis < config.recoveryHoldMillis,
      "button_debounce_ms must be < recovery_button_min_hold_ms"),
    (5 ≤ config.startupSeconds && config.startupSeconds ≤ 600,
      "init_timeout_secs must be 5–600")]

def problem? (config : Config) : Option String :=
  (config.rules.find? fun rule ↦ !rule.1).map (·.2)

def validate (config : Config) : Except ConfigError Unit :=
  match config.problem? with
  | none => .ok ()
  | some problem => .error (.invalid problem)

end Config

end TagControl
