import TagControl.Log
import TagControl.Mode
/-!
The device a controller directs: advertising, address rotation, the firmware-update transport,
the account keys, the beacon's read windows, the user's light and the factory reset. A direction
that may fail answers with the reason; one that cannot fail answers nothing. Asking whether a key
is stored changes nothing. Opening a window is the one direction that computes an instant, so it
may also find that the clock has run out.

A `Call` is one direction together with its answer.
-/

set_option autoImplicit false

namespace TagControl

inductive DeviceError where
  /-- Not ready, or disabled. -/
  | unavailable
  /-- Refused in the present state. -/
  | rejected
  /-- A failure of storage or of a bus underneath. -/
  | io
deriving DecidableEq

def DeviceError.message : DeviceError → String
  | unavailable => "collaborator unavailable"
  | rejected => "request rejected"
  | io => "I/O error"

/-- Why a computation ended early: the clock ran out, or it failed in a way of its own. -/
inductive Stop (ε : Type) where
  | clockOverflow (overflow : ClockOverflow)
  | failed (reason : ε)
deriving DecidableEq

/-- Tells a failure, which is an answer, from the end of the clock, which is none. -/
def Stop.settle {ε α : Type} : Except (Stop ε) α → Except ClockOverflow (Except ε α)
  | .ok value => .ok (.ok value)
  | .error (.failed reason) => .ok (.error reason)
  | .error (.clockOverflow overflow) => .error overflow

class Device (σ : Type) where
  advertise : AdvertisingMode → Logged σ (Except DeviceError Unit)
  /-- Suspends the rotation of the random address, or resumes it. -/
  suspendRotation : Bool → Logged σ Unit
  /-- Includes the firmware-update transport in the advertisement, or drops it. -/
  offerUpdates : Bool → Logged σ Unit
  holdsKey : σ → Traced Line (Except DeviceError Bool)
  /-- Opens a read window, or opens it anew. -/
  openWindow : ReadMode → Logged σ (Except (Stop DeviceError) Unit)
  indicate : Indication → Bool → Logged σ Unit
  /-- Erases all provisioning material. -/
  factoryReset : Logged σ (Except DeviceError Unit)

inductive Call where
  | advertise (mode : AdvertisingMode) (answer : Except DeviceError Unit)
  | suspendRotation (suspend : Bool)
  | offerUpdates (offer : Bool)
  | holdsKey (answer : Except DeviceError Bool)
  | openWindow (mode : ReadMode) (answer : Except (Stop DeviceError) Unit)
  | indicate (state : Indication) (active : Bool)
  | factoryReset (answer : Except DeviceError Unit)

end TagControl
