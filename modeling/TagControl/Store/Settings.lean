import TagControl.Config.Codec
import TagControl.Log
import TagControl.Store
/-!
The configuration as an entry of the store. It is checked before it is written and again after it
is read, so neither a bad configuration is stored nor a bad entry accepted; without an entry the
standard configuration holds.
-/

set_option autoImplicit false

namespace TagControl.Store

/-- A new and empty store. -/
def create : Traced Line Store := do
  Log.info "NvsAdapter: simulation backend"
  return {}

def configSpace : String :=
  "tagctl"

def configKey : String :=
  "modecfg"

/-- The longest configuration entry that is read. -/
def configCapacity : Nat :=
  64

def loadConfig (store : Store) : Traced Line (Except ConfigError Config) := do
  match store.read configSpace configKey configCapacity with
  | .ok data =>
    match Config.decode data with
    | none => return .error .corrupted
    | some (config, _) =>
      match config.validate with
      | .error problem => return .error problem
      | .ok () =>
        Log.info ("NvsAdapter: loaded config (" ++ toString data.length ++ " bytes)")
        return .ok config
  | .error .notFound =>
    Log.info "NvsAdapter: no stored config, using defaults"
    return .ok {}
  | .error .tooLong => return .error .corrupted
  | .error .full => return .error .io
  | .error .io => return .error .io

def saveConfig (config : Config) : Logged Store (Except ConfigError Unit) := do
  match config.validate with
  | .error problem => return .error problem
  | .ok () =>
    modify fun store ↦ store.write configSpace configKey config.encode
    Log.info "NvsAdapter: config saved (simulation)"
    return .ok ()

end TagControl.Store
