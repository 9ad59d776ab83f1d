import TagControl.Device
/-!
A device on the bench: it only remembers whether a key is stored, and each direction that may fail
does so with the reason that has been set for it. It logs nothing. A reset that succeeds takes the
key away.
-/

set_option autoImplicit false

namespace TagControl

structure Bench where
  key : Bool := false
  advertiseFault : Option DeviceError := none
  keyFault : Option DeviceError := none
  windowFault : Option DeviceError := none
  resetFault : Option DeviceError := none
deriving DecidableEq

/-- Fails with the reason that is set, if one is. -/
def Bench.answer {α : Type} (fault : Option DeviceError) (value : α) : Except DeviceError α :=
  match fault with
  | none => .ok value
  | some reason => .error reason

instance : Device Bench where
  advertise _ := return Bench.answer (← get).advertiseFault ()
  suspendRotation _ := pure ()
  offerUpdates _ := pure ()
  holdsKey bench := return Bench.answer bench.keyFault bench.key
  openWindow _ := return (Bench.answer (← get).windowFault ()).mapError .failed
  indicate _ _ := pure ()
  factoryReset := do
    let bench ← get
    let answer := Bench.answer bench.resetFault ()
    if let .ok () := answer then
      set { bench with key := false }
    return answer

end TagControl
