import TagControl.Reset
/-!
Provisioning and account keys. A reported provisioning state that disagrees with the stored keys
schedules a reset; one that agrees chooses what to advertise, except for the one report that
follows a reset. A first account key starts the time in which provisioning has to complete, and
the address keeps still until it does.
-/

set_option autoImplicit false

namespace TagControl.Provisioning

open Handler

variable {σ : Type} [Device σ]

def stateName (provisioned : Bool) : String :=
  if provisioned then "provisioned" else "unprovisioned"

/-- Asks whether an account key is stored and remembers the answer. -/
def refreshKeyPresent : Handler σ Bool := do
  match ← holdsKey with
  | .ok present =>
    modifyLedger fun ledger ↦ { ledger with keyPresent := present }
    return present
  | .error reason =>
    Log.warn ("Mode: account key query failed: " ++ reason.message)
    abandon (.stepFailed "query account key" reason)

/-- Resumes the rotation of the address if it was suspended for a reset with this cause. -/
def resumeRotationAfter (cause : Option ResetCause) : Handler σ Unit := do
  if cause = some .provisioningTimeout then
    suspendRotation false

/-- What a tag advertises whose keys agree with its provisioning state. -/
def advertisingFor (provisioned firstCallback : Bool) : AdvertisingMode :=
  if !provisioned then .discoverable else if firstCallback then .notDiscoverable else .off

def scheduleMismatchReset (config : Config) (keyPresent provisioned : Bool) : Handler σ Unit := do
  let keys := if keyPresent then "present" else "absent"
  Log.warn ("Mode: account key " ++ keys ++ " but beacon " ++ stateName provisioned ++
    ", scheduling factory reset")
  if let .error reason ← advertise .off then
    Log.warn ("Mode: failed to stop advertising before reset: " ++ reason.message)
  resumeRotationAfter (← ledger).pending
  Reset.schedule .keyMismatch config.mismatchDelay

def selectAdvertising (provisioned : Bool) : Handler σ Unit := do
  let mode := advertisingFor provisioned (← ledger).firstCallback
  if let .error reason ← advertise mode then
    Log.warn ("Mode: failed to set advertising " ++ mode.name ++ ": " ++ reason.message)
    abandon (.stepFailed "set advertising mode" reason)
  modifyLedger fun ledger ↦ { ledger with firstCallback := false }
  Log.debug ("Mode: advertising " ++ mode.name)

def stateReported (config : Config) (provisioned : Bool) : Handler σ Unit := do
  Log.info ("Mode: provisioning state changed: " ++ stateName provisioned)
  indicate .provisioned provisioned
  modifyLedger fun ledger ↦ { ledger with provisioned }
  if provisioned ∧ (← ledger).pending = some .provisioningTimeout then
    Reset.withdraw
    suspendRotation false
  let keyPresent ← refreshKeyPresent
  if keyPresent ≠ provisioned then
    scheduleMismatchReset config keyPresent provisioned
  else if (← ledger).resetDone then
    Log.info "Mode: factory reset complete, press a button to start discoverable advertising"
    modifyLedger fun ledger ↦ { ledger with resetDone := false }
  else
    selectAdvertising provisioned

def keyWritten (config : Config) : Handler σ Unit := do
  Log.info "Mode: account key written"
  if let .error reason ← advertise .notDiscoverable then
    Log.warn ("Mode: failed to leave discoverable advertising: " ++ reason.message)
    abandon (.stepFailed "set advertising mode" reason)
  unless (← ledger).keyPresent do
    Reset.schedule .provisioningTimeout config.provisioningLimit
    suspendRotation true
  let _ ← refreshKeyPresent

/-- A synchronised clock ends the pairing advertisement of a provisioned tag. -/
def clockSynced : Handler σ Unit := do
  if (← ledger).provisioned then
    Log.info "Mode: clock synced, stopping pairing advertising"
    if let .error reason ← advertise .off then
      abandon (.stepFailed "set advertising mode" reason)
  else
    Log.debug "Mode: clock synced while unprovisioned, nothing to do"

end TagControl.Provisioning
