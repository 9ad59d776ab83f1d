import TagControl.Payload
/-!
Events and the bounded queue that brings them into one order. A post to a full queue is refused
and leaves the queue as it was; an accepted event goes to the end. A malformed payload is
reported to its sender and nothing is queued.
-/

set_option autoImplicit false

namespace TagControl

/-- What a user asks for with a button. -/
inductive Request where
  | recovery
  | identification
  | dfu
deriving DecidableEq

namespace Request

def name : Request → String
  | recovery => "enter-recovery"
  | identification => "enter-identification"
  | dfu => "enter-dfu"

def mode : Request → Mode
  | recovery => .recovery
  | identification => .identification
  | dfu => .dfu

end Request

inductive Event where
  | provisioningChanged (provisioned : Bool)
  | accountKeyWritten
  | readModeExited (mode : ReadMode)
  | clockSynced
  | commandReceived (command : Command)
  | requested (request : Request)
  | timerExpired (timer : Timer)
deriving DecidableEq

def Event.name : Event → String
  | provisioningChanged _ => "provisioning-changed"
  | accountKeyWritten => "account-key-written"
  | readModeExited _ => "read-mode-exited"
  | clockSynced => "clock-synced"
  | commandReceived _ => "firmware-update-command"
  | requested _ => "ui-request"
  | timerExpired _ => "timer-expired"

def EventQueue.capacity : Nat :=
  16

structure EventQueue where
  events : List Event
  bounded : events.length ≤ EventQueue.capacity

namespace EventQueue

def empty : EventQueue :=
  ⟨[], Nat.zero_le _⟩

instance : Inhabited EventQueue :=
  ⟨empty⟩

def size (queue : EventQueue) : Nat :=
  queue.events.length

/-- Puts an event at the end unless the queue is full. -/
def push? (queue : EventQueue) (event : Event) : Option EventQueue :=
  if h : queue.size < capacity then
    some ⟨queue.events ++ [event], by rw [List.length_append]; exact h⟩
  else
    none

/-- Takes the event at the front. -/
def pop? (queue : EventQueue) : Option (Event × EventQueue) :=
  match h : queue.events with
  | [] => none
  | event :: rest =>
    some (event, ⟨rest, by have := queue.bounded; simp only [h, List.length_cons] at this; omega⟩)

theorem push?_eq_none {queue : EventQueue} {event : Event} :
    queue.push? event = none ↔ queue.size = capacity := by
  have hbounded := queue.bounded
  unfold push? size
  split
  · simp only [reduceCtorEq, false_iff]
    omega
  · simp only [true_iff]
    omega

theorem events_push? {queue after : EventQueue} {event : Event}
    (h : queue.push? event = some after) : after.events = queue.events ++ [event] := by
  unfold push? at h
  split at h
  · cases h
    rfl
  · cases h

/-- Says whether the event was queued. -/
def post (event : Event) : Logged EventQueue Bool := do
  match (← get).push? event with
  | some queue =>
    set queue
    return true
  | none =>
    Log.warn ("EventBus: queue full, dropping " ++ event.name)
    return false

/-- Posts the command in a callback of the management transport. -/
def postCommand (event : UInt32) (data : List UInt8) :
    Logged EventQueue (Except PayloadError Unit) := do
  match Command.ofCallback event data with
  | .ok command =>
    let _ ← post (.commandReceived command)
    return .ok ()
  | .error problem =>
    Log.warn ("EventBus: rejected SMP callback: " ++ problem.message)
    return .error problem

/-- Posts the end of a read window that the beacon reports by number. -/
def postReadModeExit (raw : UInt8) : Logged EventQueue (Except PayloadError Unit) := do
  match ReadMode.ofByte raw with
  | .ok mode =>
    let _ ← post (.readModeExited mode)
    return .ok ()
  | .error problem =>
    Log.warn ("EventBus: rejected read-mode exit: " ++ problem.message)
    return .error problem

end EventQueue

end TagControl
