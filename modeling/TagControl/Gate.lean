import TagControl.Ledger
import TagControl.Log
/-!
Which attributes a peer may touch. The update transport is open in DFU mode, identifying
information on an unprovisioned tag and in identification mode, and everything else always.
Attributes are accessed outside the order of events, so a decision reads three flags that were
copied from the ledger. Ordinary pairing is never accepted.
-/

set_option autoImplicit false

namespace TagControl

/-- An attribute's identifier, in its short form or its long form. A short one never equals a
long one. -/
inductive AttributeId where
  | short (value : UInt16)
  | long (value : BitVec 128)
deriving DecidableEq

inductive Resource where
  | updateTransport
  | identifyingInfo
  | other
deriving DecidableEq

/-- The characteristic that carries firmware updates. -/
def AttributeId.updateCharacteristic : AttributeId :=
  long 0xda2e7828fbce4e01ae9e261174997c48#128

def AttributeId.deviceName : AttributeId :=
  short 0x2A00

def AttributeId.resource (id : AttributeId) : Resource :=
  if id = updateCharacteristic then .updateTransport
  else if id = deviceName then .identifyingInfo
  else .other

def Resource.name : Resource → String
  | updateTransport => "UpdateTransport"
  | identifyingInfo => "IdentifyingInfo"
  | other => "Other"

/-- The flags a decision depends on; at first those of an unprovisioned tag. -/
structure Gate where
  provisioned : Bool := false
  identification : Bool := false
  dfu : Bool := false
deriving DecidableEq

inductive PairingDecision where
  | accept
  | reject
deriving DecidableEq

namespace Gate

def ofLedger (ledger : Ledger) : Gate where
  provisioned := ledger.provisioned
  identification := ledger.identification
  dfu := ledger.dfu

def allows (gate : Gate) : Resource → Bool
  | .updateTransport => gate.dfu
  | .identifyingInfo => !gate.provisioned || gate.identification
  | .other => true

/-- Decides on an access and logs the decision. -/
def authorize (gate : Gate) (id : AttributeId) : Traced Line Bool := do
  let resource := id.resource
  if gate.allows resource then
    Log.debug ("Gate: " ++ resource.name ++ " access allowed")
    return true
  match resource with
  | .updateTransport => Log.warn "Gate: DFU access denied, enter DFU mode first"
  | .identifyingInfo =>
    Log.warn "Gate: identifying info access denied, enter identification mode first"
  | .other => pure ()
  return false

def decidePairing : Traced Line PairingDecision := do
  Log.warn "Gate: normal pairing rejected"
  return .reject

end Gate

end TagControl
