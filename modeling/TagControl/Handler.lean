import TagControl.Act
import TagControl.Tag
/-!
The computations that handle events. A handler works on a tag and may end early: because the clock
ran out, or because a step failed and the rest of the event is abandoned. What was done before
stays done. Every direction to the device is recorded as a call with its answer, whether or not it
succeeded.
-/

set_option autoImplicit false

namespace TagControl

abbrev Handler (σ : Type) : Type → Type :=
  Act Entry (Stop HandlingError) (Tag σ)

/-- A computation on a tag that ends early only if the clock runs out. -/
abbrev Course (σ : Type) : Type → Type :=
  Act Entry ClockOverflow (Tag σ)

namespace Handler

variable {σ α : Type}

/-- Runs a computation on the device; its lines become part of the trace. -/
def onDevice (act : Logged σ α) : Handler σ α :=
  ⟨fun tag ↦
    let out := act.run tag.device
    ⟨.ok out.value.1, { tag with device := out.value.2 }, out.trace.map .logged⟩⟩

@[simp] theorem run_onDevice (act : Logged σ α) (tag : Tag σ) :
    (onDevice act).run tag = ⟨.ok (act.run tag.device).value.1,
      { tag with device := (act.run tag.device).value.2 },
      (act.run tag.device).trace.map .logged⟩ := rfl

/-- Runs a computation on the timers; its lines become part of the trace. -/
def onTimers (act : Logged Timers α) : Handler σ α :=
  ⟨fun tag ↦
    let out := act.run tag.timers
    ⟨.ok out.value.1, { tag with timers := out.value.2 }, out.trace.map .logged⟩⟩

@[simp] theorem run_onTimers (act : Logged Timers α) (tag : Tag σ) :
    (onTimers act).run tag = ⟨.ok (act.run tag.timers).value.1,
      { tag with timers := (act.run tag.timers).value.2 },
      (act.run tag.timers).trace.map .logged⟩ := rfl

def record (call : Call) : Handler σ Unit := do
  Act.tell [.called (← get).toMemory call]

@[simp] theorem run_record (call : Call) (tag : Tag σ) :
    (record call).run tag = ⟨.ok (), tag, [.called tag.toMemory call]⟩ := rfl

def arm (timer : Timer) (wait : Duration) : Handler σ Unit := do
  match ← onTimers (Timers.arm timer wait) with
  | .ok () => return
  | .error overflow => Act.stop (.clockOverflow overflow)

def cancel (timer : Timer) : Handler σ Bool :=
  onTimers (Timers.cancel timer)

def ledger : Handler σ Ledger :=
  return (← get).ledger

def modifyLedger (change : Ledger → Ledger) : Handler σ Unit :=
  modify fun tag ↦ { tag with ledger := change tag.ledger }

def modifyResets (change : ResetCounts → ResetCounts) : Handler σ Unit :=
  modify fun tag ↦ { tag with resets := change tag.resets }

@[simp] theorem run_ledger (tag : Tag σ) :
    (ledger : Handler σ Ledger).run tag = ⟨.ok tag.ledger, tag, []⟩ := rfl

@[simp] theorem run_modifyLedger (change : Ledger → Ledger) (tag : Tag σ) :
    (modifyLedger change).run tag = ⟨.ok (), { tag with ledger := change tag.ledger }, []⟩ := rfl

@[simp] theorem run_modifyResets (change : ResetCounts → ResetCounts) (tag : Tag σ) :
    (modifyResets change).run tag = ⟨.ok (), { tag with resets := change tag.resets }, []⟩ := rfl

/-- Abandons the event. -/
def abandon (reason : HandlingError) : Handler σ α :=
  Act.stop (.failed reason)

@[simp] theorem run_abandon (reason : HandlingError) (tag : Tag σ) :
    (abandon reason : Handler σ α).run tag = ⟨.error (.failed reason), tag, []⟩ := rfl

/-- Runs a handler to its end: an abandoned event is an answer. -/
def settle (act : Handler σ α) : Course σ (Except HandlingError α) :=
  ⟨fun tag ↦
    let out := act.run tag
    ⟨Stop.settle out.result, out.state, out.trace⟩⟩

@[simp] theorem run_settle (act : Handler σ α) (tag : Tag σ) :
    (settle act).run tag =
      ⟨Stop.settle (act.run tag).result, (act.run tag).state, (act.run tag).trace⟩ := rfl

variable [Device σ]

def advertise (mode : AdvertisingMode) : Handler σ (Except DeviceError Unit) := do
  let answer ← onDevice (Device.advertise mode)
  record (.advertise mode answer)
  return answer

def suspendRotation (suspend : Bool) : Handler σ Unit := do
  onDevice (Device.suspendRotation suspend)
  record (.suspendRotation suspend)

def offerUpdates (offer : Bool) : Handler σ Unit := do
  onDevice (Device.offerUpdates offer)
  record (.offerUpdates offer)

def holdsKey : Handler σ (Except DeviceError Bool) := do
  let answer ← onDevice do liftM (Device.holdsKey (← get))
  record (.holdsKey answer)
  return answer

def openWindow (mode : ReadMode) : Handler σ (Except DeviceError Unit) := do
  let answer ← onDevice (Device.openWindow mode)
  record (.openWindow mode answer)
  match Stop.settle answer with
  | .ok answer => return answer
  | .error overflow => Act.stop (.clockOverflow overflow)

def indicate (state : Indication) (active : Bool) : Handler σ Unit := do
  onDevice (Device.indicate state active)
  record (.indicate state active)

def factoryReset : Handler σ (Except DeviceError Unit) := do
  let answer ← onDevice Device.factoryReset
  record (.factoryReset answer)
  return answer

end Handler

end TagControl
