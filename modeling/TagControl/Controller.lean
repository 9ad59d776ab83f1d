import TagControl.Engine
import TagControl.Gate
/-!
The controller: a tag with its queue of events, the gate's copy of the flags, and the counts of
events handled and abandoned. A pass moves the timers to the present and handles each expired
timer, the earliest first, then the event that woke the controller if there is one, then all that
is queued; at its end it publishes the gate and answers with the next deadline. An event that is
abandoned is counted and logged, and the next one is handled.
-/

set_option autoImplicit false

namespace TagControl

structure Controller (σ : Type) where
  config : Config
  tag : Tag σ
  queue : EventQueue := .empty
  gate : Gate := {}
  /-- Counts are kept modulo 2^32. -/
  handled : UInt32 := 0
  failed : UInt32 := 0

/-- A computation of the controller. It ends early only if the clock runs out. -/
abbrev Pass (σ : Type) : Type → Type :=
  Act Entry ClockOverflow (Controller σ)

namespace Controller

variable {σ α : Type}

/-- A controller at power-on. It announces its windows before its device is brought up. -/
def powerOn (config : Config) (now : Instant) (bringUp : Traced Line σ) :
    Traced Line (Controller σ) := do
  Log.info ("ModeService: recovery " ++ toString config.recoveryMinutes.toNat ++
    " min, identification " ++ toString config.identificationMinutes.toNat ++
    " min, DFU " ++ toString config.dfuMinutes.toNat ++ " min")
  let device ← bringUp
  return { config, tag := .powerOn now device }

def onQueue (act : Logged EventQueue α) : Pass σ α :=
  ⟨fun controller ↦
    let out := act.run controller.queue
    ⟨.ok out.value.1, { controller with queue := out.value.2 }, out.trace.map .logged⟩⟩

def onDevice (act : Logged σ α) : Pass σ α :=
  ⟨fun controller ↦
    let out := act.run controller.tag.device
    ⟨.ok out.value.1,
      { controller with tag := { controller.tag with device := out.value.2 } },
      out.trace.map .logged⟩⟩

def onTag (act : Course σ α) : Pass σ α :=
  ⟨fun controller ↦
    let out := act.run controller.tag
    ⟨out.result, { controller with tag := out.state }, out.trace⟩⟩

/-- Copies the ledger's flags to the gate. -/
def publish : Pass σ Unit :=
  modify fun controller ↦ { controller with gate := .ofLedger controller.tag.ledger }

variable [Device σ]

/-- Tells the user that start-up is over. -/
def start : Pass σ Unit := do
  onDevice (Device.indicate .appRunning true)
  Log.info "ModeService: running"

/-- Handles one event; the outcome is counted, and a failure is logged and returned. -/
def handle (event : Event) : Pass σ (Except HandlingError Unit) := do
  modify fun controller ↦ { controller with handled := controller.handled + 1 }
  let outcome ← onTag (Engine.deliver (← get).config event)
  if let .error reason := outcome then
    modify fun controller ↦ { controller with failed := controller.failed + 1 }
    Log.warn ("ModeService: " ++ event.name ++ " abandoned: " ++ reason.message)
  return outcome

/-- Handles events in order, whether or not they fail. -/
def handleAll : List Event → Pass σ Unit
  | [] => return
  | event :: rest => do
    let _ ← handle event
    handleAll rest

/-- Moves the timers to the present, handles those that expire and counts them. -/
def handleExpired (now : Instant) : Pass σ Nat := do
  let expired ← onTag (Engine.expireTimers now)
  handleAll (expired.map .timerExpired)
  return expired.length

/-- Handles all queued events and counts them. -/
def handleQueued : Pass σ Nat := do
  let controller ← get
  let events := controller.queue.events
  set { controller with queue := .empty }
  handleAll events
  return events.length

/-- One pass, for an event already taken from the queue if there is one. -/
def run (now : Instant) (woken : Option Event) : Pass σ (Option Instant) := do
  let _ ← handleExpired now
  handleAll woken.toList
  let _ ← handleQueued
  publish
  return (← get).tag.timers.next

end Controller

end TagControl
