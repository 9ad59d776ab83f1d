import TagControl.Device
/-!
The pairing advertisement: its mode, whether the address rotates, whether the firmware-update
transport is offered, and where the transport's service identifier is placed. The identifier is
placed only while the transport is offered: in the advertisement itself if discoverable, in the
scan response if not, and nowhere while advertising is off. The placement is brought up to date
whenever the mode or the offer is set.
-/

set_option autoImplicit false

namespace TagControl

inductive Placement where
  | disabled
  | advertisingData
  | scanResponse
deriving DecidableEq

namespace Placement

def name : Placement → String
  | disabled => "Disabled"
  | advertisingData => "AdvertisingData"
  | scanResponse => "ScanResponse"

/-- The service identifier of the update transport, low byte first. -/
def serviceId : List UInt8 :=
  [0x84, 0xaa, 0x60, 0x74, 0x52, 0x8a, 0x8b, 0x86, 0xd3, 0x4c, 0xb7, 0x1d, 0x1d, 0xdc, 0x53, 0x8d]

def inAdvertisement : Placement → Option (List UInt8)
  | advertisingData => some serviceId
  | _ => none

def inScanResponse : Placement → Option (List UInt8)
  | scanResponse => some serviceId
  | _ => none

/-- Where the identifier belongs. -/
def proper (updatesOffered : Bool) (mode : AdvertisingMode) : Placement :=
  if updatesOffered then
    match mode with
    | .off => disabled
    | .discoverable => advertisingData
    | .notDiscoverable => scanResponse
  else
    disabled

/-- Replaces the placement; a change is logged. -/
def moveTo (placement : Placement) : Logged Placement Unit := do
  let before ← get
  if before ≠ placement then
    Log.debug ("SMP adv: placement " ++ before.name ++ " -> " ++ placement.name)
    set placement

end Placement

structure Advertising where
  ready : Bool := false
  mode : AdvertisingMode := .off
  rotationSuspended : Bool := false
  updatesOffered : Bool := false
  placement : Placement := .disabled
deriving DecidableEq

namespace Advertising

def updatePlacement : Logged Advertising Unit := do
  let state ← get
  Logged.on placement (fun state placement ↦ { state with placement })
    (Placement.moveTo (.proper state.updatesOffered state.mode))

def setReady (ready : Bool) : Logged Advertising Unit :=
  modify fun state ↦ { state with ready }

/-- Sets the mode if the radio is ready. -/
def advertise (mode : AdvertisingMode) : Logged Advertising (Except DeviceError Unit) := do
  let before ← get
  if before.ready then
    if before.mode ≠ mode then
      Log.info ("ADV | " ++ before.mode.name ++ " -> " ++ mode.name)
    set { before with mode }
    updatePlacement
    return .ok ()
  else
    return .error .unavailable

def suspendRotation (suspend : Bool) : Logged Advertising Unit := do
  Log.info ("ADV | address rotation " ++ if suspend then "suspended" else "resumed")
  modify fun state ↦ { state with rotationSuspended := suspend }

def offerUpdates (offer : Bool) : Logged Advertising Unit := do
  Log.info ("ADV | update transport " ++ if offer then "enabled" else "disabled")
  modify fun state ↦ { state with updatesOffered := offer }
  updatePlacement

end Advertising

end TagControl
