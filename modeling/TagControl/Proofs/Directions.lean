import TagControl.Controller
import TagControl.Proofs.Trace
/-!
What the calls of a trace say of the device. A device takes one direction after the other, and each
call carries the answer that it gave (`Device.Obeys`). A computation directs a device if the calls
in its trace lead the device from the state it found to the state it left (`Directs`): nothing else
touches the device, and no call is left out or made up. So does every handler, and every pass of a
controller.
-/

set_option autoImplicit false

namespace TagControl

variable {σ : Type}

namespace Device

variable [Device σ]

/-- How a device answers a call and what it is then. -/
inductive Obeys (device : σ) : Call → σ → Prop
  | advertise (mode : AdvertisingMode) :
    Obeys device (.advertise mode ((advertise mode).run device).value.1)
      ((advertise mode).run device).value.2
  | suspendRotation (suspend : Bool) :
    Obeys device (.suspendRotation suspend) ((suspendRotation suspend).run device).value.2
  | offerUpdates (offer : Bool) :
    Obeys device (.offerUpdates offer) ((offerUpdates offer).run device).value.2
  | holdsKey : Obeys device (.holdsKey (holdsKey device).value) device
  | openWindow (mode : ReadMode) :
    Obeys device (.openWindow mode ((openWindow mode).run device).value.1)
      ((openWindow mode).run device).value.2
  | indicate (state : Indication) (active : Bool) :
    Obeys device (.indicate state active) ((indicate state active).run device).value.2
  | factoryReset :
    Obeys device (.factoryReset (factoryReset.run device).value.1)
      (factoryReset.run device).value.2

/-- How a device answers calls made one after the other, and what it is after them. -/
inductive ObeysAll : σ → List Call → σ → Prop
  | nil {device : σ} : ObeysAll device [] device
  | cons {device middle after : σ} {call : Call} {calls : List Call}
      (hfirst : Obeys device call middle) (hrest : ObeysAll middle calls after) :
    ObeysAll device (call :: calls) after

theorem ObeysAll.single {device after : σ} {call : Call} (hcall : Obeys device call after) :
    ObeysAll device [call] after :=
  .cons hcall .nil

theorem ObeysAll.append {device middle after : σ} {first second : List Call}
    (hfirst : ObeysAll device first middle) (hsecond : ObeysAll middle second after) :
    ObeysAll device (first ++ second) after := by
  induction hfirst with
  | nil => exact hsecond
  | cons hcall hrest ih => exact .cons hcall (ih hsecond)

end Device

/-! ### Computations that direct a device -/

section Directs

variable [Device σ] {ρ ε α β : Type} {device : ρ → σ}

/-- The calls that a computation makes are what happens to the device. -/
def Directs (device : ρ → σ) (act : Act Entry ε ρ α) : Prop :=
  ∀ state, Device.ObeysAll (device state) (Trace.calls (act.run state).trace)
    (device (act.run state).state)

theorem Directs.obeysAll {act : Act Entry ε ρ α} {state after : ρ} {result : Except ε α}
    {trace : List Entry} (hdirects : Directs device act)
    (hrun : act.run state = ⟨result, after, trace⟩) :
    Device.ObeysAll (device state) (Trace.calls trace) (device after) := by
  have hobeys := hdirects state
  rw [hrun] at hobeys
  exact hobeys

theorem directs_bind {act : Act Entry ε ρ β} {next : β → Act Entry ε ρ α}
    (hact : Directs device act) (hnext : ∀ value, Directs device (next value)) :
    Directs device (act >>= next) := by
  intro state
  have hfirst := hact state
  rw [Act.run_bind]
  rcases hrun : act.run state with ⟨reason | value, middle, trace⟩
  · rw [hrun] at hfirst
    exact hfirst
  · rw [hrun] at hfirst
    rw [Outcome.andThen_ok, Outcome.trace_behind, Trace.calls_append]
    exact hfirst.append (hnext value middle)

/-- A computation that makes no call and leaves the device alone. -/
theorem directs_idle {act : Act Entry ε ρ α}
    (hcalls : ∀ state, Trace.calls (act.run state).trace = [])
    (hdevice : ∀ state, device (act.run state).state = device state) : Directs device act := by
  intro state
  rw [hcalls, hdevice]
  exact .nil

theorem directs_pure {value : α} : Directs device (pure value : Act Entry ε ρ α) :=
  directs_idle (fun _ ↦ rfl) fun _ ↦ rfl

theorem directs_log {line : Line} : Directs device (MonadLog.log line : Act Entry ε ρ Unit) :=
  directs_idle (fun _ ↦ rfl) fun _ ↦ rfl

theorem directs_get : Directs device (get : Act Entry ε ρ ρ) :=
  directs_idle (fun _ ↦ rfl) fun _ ↦ rfl

theorem directs_stop {reason : ε} : Directs device (Act.stop reason : Act Entry ε ρ α) :=
  directs_idle (fun _ ↦ rfl) fun _ ↦ rfl

theorem directs_modify {change : ρ → ρ} (hdevice : ∀ state, device (change state) = device state) :
    Directs device (modify change : Act Entry ε ρ PUnit) :=
  directs_idle (fun _ ↦ rfl) hdevice

end Directs

/-! ### Handlers -/

namespace Handler

section Steps

variable [Device σ] {α : Type}

theorem directs_onTimers {act : Logged Timers α} :
    Directs Tag.device (onTimers act : Handler σ α) :=
  directs_idle (fun tag ↦ by simp) fun tag ↦ rfl

theorem directs_arm {timer : Timer} {wait : Duration} :
    Directs Tag.device (arm timer wait : Handler σ Unit) := by
  unfold arm
  refine directs_bind directs_onTimers fun answer ↦ ?_
  cases answer with
  | ok _ => exact directs_pure
  | error overflow => exact directs_stop

theorem directs_cancel {timer : Timer} : Directs Tag.device (cancel timer : Handler σ Bool) :=
  directs_onTimers

theorem directs_ledger : Directs Tag.device (ledger : Handler σ Ledger) :=
  directs_idle (fun _ ↦ rfl) fun _ ↦ rfl

theorem directs_modifyLedger {change : Ledger → Ledger} :
    Directs Tag.device (modifyLedger change : Handler σ Unit) :=
  directs_modify fun _ ↦ rfl

theorem directs_modifyResets {change : ResetCounts → ResetCounts} :
    Directs Tag.device (modifyResets change : Handler σ Unit) :=
  directs_modify fun _ ↦ rfl

theorem directs_abandon {reason : HandlingError} :
    Directs Tag.device (abandon reason : Handler σ α) :=
  directs_stop

theorem directs_advertise {mode : AdvertisingMode} :
    Directs Tag.device (advertise mode : Handler σ (Except DeviceError Unit)) := by
  intro tag
  simpa [advertise] using Device.ObeysAll.single (.advertise mode)

theorem directs_suspendRotation {suspend : Bool} :
    Directs Tag.device (suspendRotation suspend : Handler σ Unit) := by
  intro tag
  simpa [suspendRotation] using Device.ObeysAll.single (.suspendRotation suspend)

theorem directs_offerUpdates {offer : Bool} :
    Directs Tag.device (offerUpdates offer : Handler σ Unit) := by
  intro tag
  simpa [offerUpdates] using Device.ObeysAll.single (.offerUpdates offer)

theorem directs_holdsKey : Directs Tag.device (holdsKey : Handler σ (Except DeviceError Bool)) := by
  intro tag
  have hasked : Device.Obeys tag.device _ tag.device := .holdsKey
  simpa [holdsKey, Except.map] using Device.ObeysAll.single hasked

theorem directs_openWindow {mode : ReadMode} :
    Directs Tag.device (openWindow mode : Handler σ (Except DeviceError Unit)) := by
  intro tag
  have hopened : Device.Obeys tag.device _ _ := .openWindow mode
  cases hsettle : Stop.settle ((Device.openWindow mode).run tag.device).value.1 with
  | ok answer => simpa [openWindow, hsettle] using Device.ObeysAll.single hopened
  | error overflow => simpa [openWindow, hsettle] using Device.ObeysAll.single hopened

theorem directs_indicate {state : Indication} {active : Bool} :
    Directs Tag.device (indicate state active : Handler σ Unit) := by
  intro tag
  simpa [indicate] using Device.ObeysAll.single (.indicate state active)

theorem directs_factoryReset :
    Directs Tag.device (factoryReset : Handler σ (Except DeviceError Unit)) := by
  intro tag
  simpa [factoryReset] using Device.ObeysAll.single .factoryReset

end Steps

end Handler

open Handler

section Handlers

variable [Device σ]

theorem Reset.directs_schedule {cause : ResetCause} {delay : Duration} :
    Directs Tag.device (Reset.schedule cause delay : Handler σ Unit) := by
  have harm : Directs Tag.device (do
      arm .factoryReset delay
      modifyLedger fun ledger ↦ { ledger with pending := some cause }
      Log.info ("FactoryReset: scheduled in " ++ toString delay.seconds ++ " s (" ++ cause.name ++
        ")") : Handler σ Unit) :=
    directs_bind directs_arm fun _ ↦ directs_bind directs_modifyLedger fun _ ↦ directs_log
  unfold Reset.schedule
  refine directs_bind directs_ledger fun ledger ↦ ?_
  cases ledger.pending with
  | none => exact harm
  | some previous => exact directs_bind directs_log fun _ ↦ harm

theorem Reset.directs_withdraw : Directs Tag.device (Reset.withdraw : Handler σ Unit) := by
  have hclear : Directs Tag.device (modifyLedger fun ledger ↦ { ledger with pending := none } :
      Handler σ Unit) := directs_modifyLedger
  unfold Reset.withdraw
  refine directs_bind directs_cancel fun wasArmed ↦ directs_bind directs_ledger fun ledger ↦ ?_
  cases ledger.pending with
  | some cause => exact directs_bind directs_log fun _ ↦ hclear
  | none =>
    cases wasArmed with
    | true => exact directs_bind directs_log fun _ ↦ hclear
    | false => exact hclear

theorem Reset.directs_expire :
    Directs Tag.device (Reset.expire : Handler σ (Except HandlingError (Option ResetCause))) := by
  unfold Reset.expire
  refine directs_bind directs_ledger fun ledger ↦ ?_
  cases ledger.pending with
  | none => exact directs_bind directs_log fun _ ↦ directs_pure
  | some cause =>
    refine directs_bind directs_modifyLedger fun _ ↦ directs_bind directs_log fun _ ↦
      directs_bind directs_factoryReset fun answer ↦ ?_
    cases answer with
    | ok _ =>
      exact directs_bind directs_modifyResets fun _ ↦ directs_bind directs_modifyLedger fun _ ↦
        directs_bind directs_log fun _ ↦ directs_pure
    | error reason =>
      exact directs_bind directs_modifyResets fun _ ↦ directs_bind directs_log fun _ ↦ directs_pure

theorem Provisioning.directs_refreshKeyPresent :
    Directs Tag.device (Provisioning.refreshKeyPresent : Handler σ Bool) := by
  unfold Provisioning.refreshKeyPresent
  refine directs_bind directs_holdsKey fun answer ↦ ?_
  cases answer with
  | ok present => exact directs_bind directs_modifyLedger fun _ ↦ directs_pure
  | error reason => exact directs_bind directs_log fun _ ↦ directs_abandon

theorem Provisioning.directs_resumeRotationAfter {cause : Option ResetCause} :
    Directs Tag.device (Provisioning.resumeRotationAfter cause : Handler σ Unit) := by
  unfold Provisioning.resumeRotationAfter
  split
  · exact directs_suspendRotation
  · exact directs_pure

theorem Provisioning.directs_scheduleMismatchReset {config : Config}
    {keyPresent provisioned : Bool} : Directs Tag.device
      (Provisioning.scheduleMismatchReset config keyPresent provisioned : Handler σ Unit) := by
  have hrest : Directs Tag.device (do
      resumeRotationAfter (← ledger).pending
      Reset.schedule .keyMismatch config.mismatchDelay : Handler σ Unit) :=
    directs_bind directs_ledger fun _ ↦ directs_bind directs_resumeRotationAfter fun _ ↦
      Reset.directs_schedule
  unfold Provisioning.scheduleMismatchReset
  refine directs_bind directs_log fun _ ↦ directs_bind directs_advertise fun answer ↦ ?_
  cases answer with
  | ok _ => exact hrest
  | error reason => exact directs_bind directs_log fun _ ↦ hrest

theorem Provisioning.directs_selectAdvertising {provisioned : Bool} :
    Directs Tag.device (Provisioning.selectAdvertising provisioned : Handler σ Unit) := by
  unfold Provisioning.selectAdvertising
  refine directs_bind directs_ledger fun ledger ↦ directs_bind directs_advertise fun answer ↦ ?_
  have hrest : Directs Tag.device (do
      modifyLedger fun ledger ↦ { ledger with firstCallback := false }
      Log.debug ("Mode: advertising " ++ (advertisingFor provisioned ledger.firstCallback).name) :
      Handler σ Unit) :=
    directs_bind directs_modifyLedger fun _ ↦ directs_log
  cases answer with
  | ok _ => exact hrest
  | error reason =>
    -- nothing is done after the event is abandoned, but the rest stands behind it all the same
    exact directs_bind directs_log fun _ ↦ directs_bind directs_abandon fun _ ↦ hrest

theorem Provisioning.directs_stateReported {config : Config} {provisioned : Bool} :
    Directs Tag.device (Provisioning.stateReported config provisioned : Handler σ Unit) := by
  have hrest : Directs Tag.device (do
      let keyPresent ← refreshKeyPresent
      if keyPresent ≠ provisioned then
        scheduleMismatchReset config keyPresent provisioned
      else if (← ledger).resetDone then
        Log.info "Mode: factory reset complete, press a button to start discoverable advertising"
        modifyLedger fun ledger ↦ { ledger with resetDone := false }
      else
        selectAdvertising provisioned : Handler σ Unit) := by
    refine directs_bind directs_refreshKeyPresent fun keyPresent ↦ ?_
    split
    · exact directs_scheduleMismatchReset
    · refine directs_bind directs_ledger fun ledger ↦ ?_
      split
      · exact directs_bind directs_log fun _ ↦ directs_modifyLedger
      · exact directs_selectAdvertising
  unfold Provisioning.stateReported
  refine directs_bind directs_log fun _ ↦ directs_bind directs_indicate fun _ ↦
    directs_bind directs_modifyLedger fun _ ↦ directs_bind directs_ledger fun ledger ↦ ?_
  dsimp only
  split
  · exact directs_bind Reset.directs_withdraw fun _ ↦
      directs_bind directs_suspendRotation fun _ ↦ hrest
  · exact hrest

theorem Provisioning.directs_keyWritten {config : Config} :
    Directs Tag.device (Provisioning.keyWritten config : Handler σ Unit) := by
  have hquery : Directs Tag.device (do let _ ← refreshKeyPresent : Handler σ Unit) :=
    directs_bind directs_refreshKeyPresent fun _ ↦ directs_pure
  have hrest : Directs Tag.device (do
      unless (← ledger).keyPresent do
        Reset.schedule .provisioningTimeout config.provisioningLimit
        suspendRotation true
      let _ ← refreshKeyPresent : Handler σ Unit) := by
    refine directs_bind directs_ledger fun ledger ↦ ?_
    dsimp only
    split
    · exact hquery
    · exact directs_bind Reset.directs_schedule fun _ ↦
        directs_bind directs_suspendRotation fun _ ↦ hquery
  unfold Provisioning.keyWritten
  refine directs_bind directs_log fun _ ↦ directs_bind directs_advertise fun answer ↦ ?_
  cases answer with
  | ok _ => exact hrest
  | error reason =>
    exact directs_bind directs_log fun _ ↦ directs_bind directs_abandon fun _ ↦ hrest

theorem Provisioning.directs_clockSynced :
    Directs Tag.device (Provisioning.clockSynced : Handler σ Unit) := by
  unfold Provisioning.clockSynced
  refine directs_bind directs_ledger fun ledger ↦ ?_
  split
  · refine directs_bind directs_log fun _ ↦ directs_bind directs_advertise fun answer ↦ ?_
    cases answer with
    | ok _ => exact directs_pure
    | error reason => exact directs_abandon
  · exact directs_log

theorem TimedMode.directs_openReadWindow {mode : ReadMode} :
    Directs Tag.device (TimedMode.openReadWindow mode : Handler σ Unit) := by
  unfold TimedMode.openReadWindow
  refine directs_bind directs_openWindow fun answer ↦ ?_
  cases answer with
  | ok _ => exact directs_pure
  | error reason => exact directs_bind directs_log fun _ ↦ directs_abandon

theorem TimedMode.directs_openUpdateTransport :
    Directs Tag.device (TimedMode.openUpdateTransport : Handler σ Unit) := by
  unfold TimedMode.openUpdateTransport
  refine directs_bind directs_ledger fun ledger ↦ directs_bind directs_advertise fun answer ↦ ?_
  cases answer with
  | ok _ => exact directs_offerUpdates
  | error reason =>
    exact directs_bind directs_log fun _ ↦ directs_bind directs_abandon fun _ ↦
      directs_offerUpdates

theorem TimedMode.directs_enter {config : Config} {mode : Mode} :
    Directs Tag.device (TimedMode.enter config mode : Handler σ Unit) := by
  have hstart : ∀ (wasActive : Bool) (refreshed entered : String), Directs Tag.device (do
      arm mode.timer (mode.window config)
      modifyLedger fun ledger ↦ ledger.withActive mode true
      indicate mode.indication true
      if wasActive then
        Log.info refreshed
      else
        Log.info entered : Handler σ Unit) := by
    intro wasActive refreshed entered
    refine directs_bind directs_arm fun _ ↦ directs_bind directs_modifyLedger fun _ ↦
      directs_bind directs_indicate fun _ ↦ ?_
    split
    · exact directs_log
    · exact directs_log
  unfold TimedMode.enter
  refine directs_bind directs_ledger fun ledger ↦ ?_
  split
  · exact directs_log
  · cases mode with
    | recovery => exact directs_bind directs_openReadWindow fun _ ↦ hstart _ _ _
    | identification => exact directs_bind directs_openReadWindow fun _ ↦ hstart _ _ _
    | dfu => exact directs_bind directs_openUpdateTransport fun _ ↦ hstart _ _ _

theorem TimedMode.directs_leave {mode : Mode} :
    Directs Tag.device (TimedMode.leave mode : Handler σ Unit) := by
  have hshow : Directs Tag.device (do
      indicate mode.indication false
      Log.info ("Mode: left " ++ mode.name) : Handler σ Unit) :=
    directs_bind directs_indicate fun _ ↦ directs_log
  unfold TimedMode.leave
  refine directs_bind directs_ledger fun ledger ↦ ?_
  split
  · refine directs_bind directs_modifyLedger fun _ ↦ ?_
    dsimp only
    split
    · refine directs_bind directs_offerUpdates fun _ ↦
        directs_bind directs_advertise fun answer ↦ ?_
      cases answer with
      | ok _ => exact hshow
      | error reason => exact directs_bind directs_log fun _ ↦ hshow
    · exact hshow
  · exact directs_log

theorem TimedMode.directs_readModeExited {mode : ReadMode} :
    Directs Tag.device (TimedMode.readModeExited mode : Handler σ Unit) :=
  directs_bind directs_cancel fun _ ↦ directs_leave

theorem TimedMode.directs_timedOut {mode : Mode} :
    Directs Tag.device (TimedMode.timedOut mode : Handler σ Unit) :=
  directs_bind directs_log fun _ ↦ directs_leave

theorem TimedMode.directs_request {config : Config} {request : Request} :
    Directs Tag.device (TimedMode.request config request : Handler σ Unit) :=
  directs_bind directs_log fun _ ↦ directs_enter

theorem TimedMode.directs_extendUpdate {config : Config} {command : Command} :
    Directs Tag.device (TimedMode.extendUpdate config command : Handler σ Unit) := by
  unfold TimedMode.extendUpdate
  split
  · exact directs_log
  · refine directs_bind directs_ledger fun ledger ↦ ?_
    split
    · exact directs_log
    · exact directs_bind directs_arm fun _ ↦ directs_log

theorem Engine.directs_resetExpired :
    Directs Tag.device (Engine.resetExpired : Handler σ Unit) := by
  unfold Engine.resetExpired
  refine directs_bind directs_ledger fun ledger ↦ directs_bind Reset.directs_expire fun outcome ↦
    directs_bind Provisioning.directs_resumeRotationAfter fun _ ↦ ?_
  cases outcome with
  | ok _ => exact directs_pure
  | error reason => exact directs_abandon

/-- Whatever the event, nothing happens to the device but what the calls say. -/
theorem Engine.directs_handle {config : Config} {event : Event} :
    Directs Tag.device (Engine.handle config event : Handler σ Unit) := by
  cases event with
  | provisioningChanged provisioned => exact Provisioning.directs_stateReported
  | accountKeyWritten => exact Provisioning.directs_keyWritten
  | readModeExited mode => exact TimedMode.directs_readModeExited
  | clockSynced => exact Provisioning.directs_clockSynced
  | commandReceived command => exact TimedMode.directs_extendUpdate
  | requested request => exact TimedMode.directs_request
  | timerExpired timer =>
    show Directs Tag.device (Engine.timerExpired timer)
    unfold Engine.timerExpired
    cases Mode.ofTimer timer with
    | some mode => exact TimedMode.directs_timedOut
    | none => exact directs_resetExpired

theorem Engine.directs_deliver {config : Config} {event : Event} :
    Directs Tag.device (Engine.deliver config event : Course σ (Except HandlingError Unit)) := by
  have hsettle : Directs Tag.device (settle (handle config event) : Course σ _) := fun tag ↦
    directs_handle tag
  exact directs_bind directs_get fun before ↦ directs_bind hsettle fun outcome ↦
    directs_bind (directs_idle (fun _ ↦ rfl) fun _ ↦ rfl) fun _ ↦ directs_pure

end Handlers

/-! ### Passes -/

namespace Controller

variable [Device σ] {α : Type}

/-- The device that a controller directs. -/
def device (controller : Controller σ) : σ :=
  controller.tag.device

theorem directs_onTag {act : Course σ α} (hact : Directs Tag.device act) :
    Directs device (onTag act) :=
  fun controller ↦ hact controller.tag

theorem directs_handle {event : Event} :
    Directs device (handle event : Pass σ (Except HandlingError Unit)) := by
  unfold handle
  refine directs_bind (directs_modify fun _ ↦ rfl) fun _ ↦ directs_bind directs_get fun controller ↦
    directs_bind (directs_onTag Engine.directs_deliver) fun outcome ↦ ?_
  cases outcome with
  | ok _ => exact directs_pure
  | error reason =>
    exact directs_bind (directs_modify fun _ ↦ rfl) fun _ ↦ directs_bind directs_log fun _ ↦
      directs_pure

theorem directs_handleAll {events : List Event} :
    Directs device (handleAll events : Pass σ Unit) := by
  induction events with
  | nil => exact directs_pure
  | cons event rest ih => exact directs_bind directs_handle fun _ ↦ ih

/-- Whatever a pass handles, nothing happens to the device but what its calls say. -/
theorem directs_run {now : Instant} {woken : Option Event} :
    Directs device (run now woken : Pass σ (Option Instant)) := by
  have hexpired : Directs device (handleExpired now : Pass σ Nat) :=
    directs_bind (directs_onTag (directs_idle (fun _ ↦ rfl) fun _ ↦ rfl)) fun _ ↦
      directs_bind directs_handleAll fun _ ↦ directs_pure
  have hqueued : Directs device (handleQueued : Pass σ Nat) := by
    intro controller
    -- the queue is emptied first, in the controller that was read
    have hall : Directs device (do
        handleAll controller.queue.events
        return controller.queue.events.length : Pass σ Nat) :=
      directs_bind directs_handleAll fun _ ↦ directs_pure
    exact hall { controller with queue := .empty }
  have hpublish : Directs device (publish : Pass σ Unit) := directs_modify fun _ ↦ rfl
  exact directs_bind hexpired fun _ ↦ directs_bind directs_handleAll fun _ ↦
    directs_bind hqueued fun _ ↦ directs_bind hpublish fun _ ↦
      directs_bind directs_get fun _ ↦ directs_pure

end Controller

end TagControl
