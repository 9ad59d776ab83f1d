import TagControl.Provisioning
import TagControl.TimedMode
/-!
The handling of one event. Events are handled one at a time and each handler sees the ledger and
the timers that the events before it left.
-/

set_option autoImplicit false

namespace TagControl.Engine

open Handler

variable {σ : Type} [Device σ]

/-- The reset timer fired. The address rotates again whether or not the reset succeeds. -/
def resetExpired : Handler σ Unit := do
  let pending := (← ledger).pending
  let outcome ← Reset.expire
  Provisioning.resumeRotationAfter pending
  if let .error reason := outcome then
    abandon reason

def timerExpired (timer : Timer) : Handler σ Unit :=
  match Mode.ofTimer timer with
  | some mode => TimedMode.timedOut mode
  | none => resetExpired

def handle (config : Config) : Event → Handler σ Unit
  | .provisioningChanged provisioned => Provisioning.stateReported config provisioned
  | .accountKeyWritten => Provisioning.keyWritten config
  | .readModeExited mode => TimedMode.readModeExited mode
  | .clockSynced => Provisioning.clockSynced
  | .commandReceived command => TimedMode.extendUpdate config command
  | .requested request => TimedMode.request config request
  | .timerExpired timer => timerExpired timer

/-- Handles one event to its end and notes it. -/
def deliver (config : Config) (event : Event) : Course σ (Except HandlingError Unit) := do
  let before ← get
  let outcome ← settle (handle config event)
  Act.tell [.handled before.toMemory event outcome]
  return outcome

omit [Device σ] in
/-- Moves the timers to the present and returns those that expire, in order. -/
def expireTimers (now : Instant) : Course σ (List Timer) := do
  let tag ← get
  let (expired, timers) := tag.timers.advance now
  set { tag with timers }
  return expired

/-- Handles the expiry of each timer, and pairs it with the outcome. -/
def deliverExpired (config : Config) :
    List Timer → Course σ (List (Timer × Except HandlingError Unit))
  | [] => return []
  | timer :: rest => do
    let outcome ← deliver config (.timerExpired timer)
    return (timer, outcome) :: (← deliverExpired config rest)

/-- Moves the timers to the present and handles those that expire, at once and in order. -/
def advance (config : Config) (now : Instant) :
    Course σ (List (Timer × Except HandlingError Unit)) := do
  deliverExpired config (← expireTimers now)

end TagControl.Engine
