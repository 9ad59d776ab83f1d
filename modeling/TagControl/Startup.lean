import TagControl.Device
/-!
Start-up: thirteen stages in a fixed order, of which the first that fails ends the sequence, and
the handover of the outcome to whoever waits for it. A handover keeps the latest outcome until it
is taken, once.
-/

set_option autoImplicit false

namespace TagControl

inductive Stage where
  | userInterface
  | pairingCallbacks
  | attributeAuthorization
  | radio
  | settings
  | identity
  | battery
  | ringing
  | fastPairPrepare
  | beaconPrepare
  | factoryReset
  | fastPairEnable
  | firmwareUpdate
deriving DecidableEq

namespace Stage

def all : List Stage :=
  [userInterface, pairingCallbacks, attributeAuthorization, radio, settings, identity, battery,
    ringing, fastPairPrepare, beaconPrepare, factoryReset, fastPairEnable, firmwareUpdate]

def name : Stage → String
  | userInterface => "user interface"
  | pairingCallbacks => "pairing callbacks"
  | attributeAuthorization => "attribute authorization"
  | radio => "radio"
  | settings => "settings"
  | identity => "identity"
  | battery => "battery"
  | ringing => "ringing"
  | fastPairPrepare => "fast pair prepare"
  | beaconPrepare => "beacon prepare"
  | factoryReset => "factory reset"
  | fastPairEnable => "fast pair enable"
  | firmwareUpdate => "firmware update"

end Stage

inductive StartupError where
  | stageFailed (stage : String) (reason : DeviceError)
  | timedOut
deriving DecidableEq

def StartupError.message : StartupError → String
  | stageFailed stage reason => "stage '" ++ stage ++ "' failed: " ++ reason.message
  | timedOut => "initialisation handshake timed out"

namespace Startup

variable {π : Type}

/-- Runs stages in order on a platform, up to the first that fails. -/
def runStages (bringUp : Stage → π → Except DeviceError Unit × π) :
    List Stage → Logged π (Except StartupError Unit)
  | [] => do
    Log.info "Startup: initialisation complete"
    return .ok ()
  | stage :: rest => do
    let (outcome, platform) := bringUp stage (← get)
    set platform
    match outcome with
    | .ok () =>
      Log.info ("Startup: " ++ stage.name ++ " ready")
      runStages bringUp rest
    | .error reason =>
      Log.error ("Startup: " ++ stage.name ++ " init failed: " ++ reason.message)
      return .error (.stageFailed stage.name reason)

def run (bringUp : Stage → π → Except DeviceError Unit × π) :
    Logged π (Except StartupError Unit) :=
  runStages bringUp Stage.all

end Startup

structure Handover where
  outcome : Option (Except StartupError Unit) := none

namespace Handover

def complete (_ : Handover) (outcome : Except StartupError Unit) : Handover where
  outcome := some outcome

/-- What a wait brings when nothing more is reported before its time is over: the outcome that is
there, or the end of its time. -/
def wait (handover : Handover) : Except StartupError Unit × Handover :=
  (handover.outcome.getD (.error .timedOut), {})

end Handover

end TagControl
