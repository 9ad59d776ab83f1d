import TagControl.Startup
import TagControl.Store
import TagControl.Tag
/-!
Every failure of the controller under one type. Its message names the part it comes from.
-/

set_option autoImplicit false

namespace TagControl

inductive Failure where
  | mode (error : HandlingError)
  | event (error : PayloadError)
  | startup (error : StartupError)
  | config (error : ConfigError)
  | storage (error : StoreError)
deriving DecidableEq

def Failure.message : Failure → String
  | mode error => "mode: " ++ error.message
  | event error => "event: " ++ error.message
  | startup error => "startup: " ++ error.message
  | config error => "config: " ++ error.message
  | storage error => "storage: " ++ error.message

end TagControl
