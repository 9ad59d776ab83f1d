import TagControl.Handler
/-!
Entering, refreshing, extending and leaving the timed modes. A mode becomes active only after
every step that may fail has succeeded, so a failed refresh leaves the running window as it was.
Leaving a mode cannot fail, and leaving an inactive mode does nothing.
-/

set_option autoImplicit false

namespace TagControl.TimedMode

open Handler

variable {σ : Type} [Device σ]

def openReadWindow (mode : ReadMode) : Handler σ Unit := do
  if let .error reason ← openWindow mode then
    Log.warn ("Mode: beacon refused " ++ mode.name ++ " read mode: " ++ reason.message)
    abandon (.stepFailed "enter read mode" reason)

/-- Advertises the firmware-update transport, to all if the tag is unprovisioned. -/
def openUpdateTransport : Handler σ Unit := do
  let advertised : AdvertisingMode :=
    if (← ledger).provisioned then .notDiscoverable else .discoverable
  if let .error reason ← advertise advertised then
    Log.warn ("DFU: failed to set advertising " ++ advertised.name ++ ": " ++ reason.message)
    abandon (.stepFailed "set advertising mode" reason)
  offerUpdates true

def enter (config : Config) (mode : Mode) : Handler σ Unit := do
  let before ← ledger
  if mode.needsProvisioning && !before.provisioned then
    Log.info ("Mode: " ++ mode.name ++ " is unavailable while unprovisioned")
  else
    let window := mode.window config
    if let some readMode := mode.readMode then
      openReadWindow readMode
    if mode = .dfu then
      openUpdateTransport
    arm mode.timer window
    modifyLedger fun ledger ↦ ledger.withActive mode true
    indicate mode.indication true
    if before.isActive mode then
      Log.info ("Mode: " ++ mode.name ++ " refreshed, " ++ toString window.seconds ++
        " s remaining")
    else
      Log.info ("Mode: entered " ++ mode.name ++ " for " ++ toString window.seconds ++ " s")

def leave (mode : Mode) : Handler σ Unit := do
  if (← ledger).isActive mode then
    modifyLedger fun ledger ↦ ledger.withActive mode false
    if mode = .dfu then
      offerUpdates false
      if let .error reason ← advertise .off then
        Log.warn ("DFU: failed to stop advertising: " ++ reason.message)
    indicate mode.indication false
    Log.info ("Mode: left " ++ mode.name)
  else
    Log.debug ("Mode: " ++ mode.name ++ " already inactive")

def request (config : Config) (request : Request) : Handler σ Unit := do
  Log.debug ("Mode: UI request " ++ request.name)
  enter config request.mode

/-- The beacon closed the read window of a mode. -/
def readModeExited (mode : ReadMode) : Handler σ Unit := do
  let _ ← cancel (Mode.ofReadMode mode).timer
  leave (Mode.ofReadMode mode)

def timedOut (mode : Mode) : Handler σ Unit := do
  Log.info ("Mode: " ++ mode.name ++ " timed out")
  leave mode

omit [Device σ] in
/-- An update command received in DFU mode starts its window anew. -/
def extendUpdate (config : Config) (command : Command) : Handler σ Unit := do
  if !command.isUpdate then
    Log.debug ("DFU: ignoring SMP command group " ++ toString command.group.toNat ++ " id " ++
      toString command.id.toNat)
  else if !(← ledger).dfu then
    Log.debug "DFU: update command outside DFU mode, window not extended"
  else
    arm .dfu config.dfuWindow
    Log.debug ("DFU: window extended by " ++ toString config.dfuWindow.seconds ++ " s")

end TagControl.TimedMode
