import TagControl.Device
import TagControl.Event
import TagControl.Ledger
/-!
A tag: what its controller remembers (the ledger, the timers and the counts of resets) and the
device it directs. The work on a tag leaves a trace of the lines logged, the calls made to the
device and the events handled, in order.
-/

set_option autoImplicit false

namespace TagControl

/-- Resets that succeeded and resets that failed. A count that has reached its limit stays. -/
structure ResetCounts where
  executed : Nat := 0
  failed : Nat := 0
deriving DecidableEq

namespace ResetCounts

/-- The largest number of 32 bits. -/
def limit : Nat :=
  0xffffffff

def countExecuted (counts : ResetCounts) : ResetCounts :=
  { counts with executed := min (counts.executed + 1) limit }

def countFailed (counts : ResetCounts) : ResetCounts :=
  { counts with failed := min (counts.failed + 1) limit }

end ResetCounts

/-- What the controller remembers. -/
structure Memory where
  ledger : Ledger := {}
  timers : Timers
  resets : ResetCounts := {}
deriving DecidableEq

structure Tag (σ : Type) extends Memory where
  device : σ

/-- A tag at power-on. -/
def Tag.powerOn {σ : Type} (now : Instant) (device : σ) : Tag σ where
  timers := { now }
  device

inductive HandlingError where
  /-- A direction failed; `step` names what it was for. -/
  | stepFailed (step : String) (reason : DeviceError)
  | resetFailed (cause : ResetCause) (reason : DeviceError)
deriving DecidableEq

def HandlingError.message : HandlingError → String
  | stepFailed step reason => step ++ " failed: " ++ reason.message
  | resetFailed cause reason =>
    "factory reset (" ++ cause.name ++ ") failed: " ++ reason.message

/-- An entry of a trace. Calls and handled events come with the memory at their moment: for a call
that of the call, for an event that which the event found. -/
inductive Entry where
  | logged (line : Line)
  | called (memory : Memory) (call : Call)
  | handled (memory : Memory) (event : Event) (outcome : Except HandlingError Unit)

namespace Entry

def line? : Entry → Option Line
  | logged line => some line
  | _ => none

def call? : Entry → Option Call
  | called _ call => some call
  | _ => none

end Entry

instance : OfLine Entry :=
  ⟨.logged⟩

end TagControl
