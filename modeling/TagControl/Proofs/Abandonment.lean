import TagControl.Proofs.Mirror
import TagControl.Proofs.PendingReset
/-!
Events that are abandoned. A direction that fails either is tolerated, and the handling goes on, or
ends the handling there: no call follows it, and the memory stays as it was at the call
(`Handler.AbandonsAtCall`). What was written before it is little: never the window of a mode, and
nothing at all for a request, a synchronised clock and a key whose advertisement is refused.
Leaving a mode and scheduling a reset on disputed keys tolerate a radio that does not answer.
-/

set_option autoImplicit false

namespace TagControl

/-- The error with which an event is abandoned at a call that fails. -/
def Call.failure? : Call → Option HandlingError
  | advertise _ (.error reason) => some (.stepFailed "set advertising mode" reason)
  | holdsKey (.error reason) => some (.stepFailed "query account key" reason)
  | openWindow _ (.error (.failed reason)) => some (.stepFailed "enter read mode" reason)
  | _ => none

namespace Handler

variable {σ α β : Type}

/-- The trace ends with a call that failed for this reason, apart from lines, and the memory has not
changed since. -/
def EndsAtFailure (after : Memory) (trace : List Entry) (failure : HandlingError) : Prop :=
  ∃ earlier call lines, trace = earlier ++ .called after call :: List.map .logged lines ∧
    call.failure? = some failure

/-- The computation is abandoned only at a call that fails. -/
def AbandonsAtCall (act : Handler σ α) : Prop :=
  ∀ tag step reason, (act.run tag).result = .error (.failed (.stepFailed step reason)) →
    EndsAtFailure (act.run tag).state.toMemory (act.run tag).trace (.stepFailed step reason)

/-- The computation is one call, after which the memory is as before, unless the clock runs out. -/
def Calls (act : Handler σ α) (call : α → Call) : Prop :=
  ∀ tag, (∃ overflow, (act.run tag).result = .error (.clockOverflow overflow)) ∨
    ∃ answer device lines, act.run tag = ⟨.ok answer, { tag with device },
      List.map .logged lines ++ [.called tag.toMemory (call answer)]⟩

/-- The computation is abandoned at once. -/
def Stops (act : Handler σ α) (failure : HandlingError) : Prop :=
  ∀ tag, ∃ lines, act.run tag = ⟨.error (.failed failure), tag, List.map .logged lines⟩

section Rules

theorem EndsAtFailure.behind {after : Memory} {trace : List Entry} {failure : HandlingError}
    (hends : EndsAtFailure after trace failure) (before : List Entry) :
    EndsAtFailure after (before ++ trace) failure := by
  obtain ⟨earlier, call, lines, rfl, hcall⟩ := hends
  exact ⟨before ++ earlier, call, lines, (List.append_assoc ..).symm, hcall⟩

theorem abandonsAtCall_bind {act : Handler σ β} {next : β → Handler σ α}
    (hact : AbandonsAtCall act) (hnext : ∀ value, AbandonsAtCall (next value)) :
    AbandonsAtCall (act >>= next) := by
  intro tag step reason hresult
  have hfirst := hact tag step reason
  rw [Act.run_bind] at hresult ⊢
  rcases hrun : act.run tag with ⟨early | value, middle, trace⟩ <;> rw [hrun] at hresult hfirst
  · cases hresult
    exact hfirst rfl
  · exact (hnext value middle step reason hresult).behind trace

/-- What is never abandoned is not abandoned elsewhere. -/
theorem abandonsAtCall_of_ends {act : Handler σ α}
    (hends : ∀ tag, Ends act tag fun _ result _ ↦ ∀ step reason,
      result ≠ .error (.failed (.stepFailed step reason))) : AbandonsAtCall act :=
  fun tag step reason hresult ↦ absurd hresult ((hends tag).2 step reason)

/-- After a call the computation goes on, or it is abandoned at once for the reason that the call
gives. -/
theorem abandonsAtCall_call {act : Handler σ β} {call : β → Call} {next : β → Handler σ α}
    (hact : Calls act call) (hnext : ∀ answer, AbandonsAtCall (next answer) ∨
      ∃ failure, (call answer).failure? = some failure ∧ Stops (next answer) failure) :
    AbandonsAtCall (act >>= next) := by
  intro tag step reason hresult
  rw [Act.run_bind] at hresult ⊢
  rcases hact tag with ⟨overflow, hoverflow⟩ | ⟨answer, device, lines, hrun⟩
  · rcases hrun : act.run tag with ⟨early | value, middle, trace⟩ <;> rw [hrun] at hresult hoverflow
    · cases hoverflow
      cases hresult
    · cases hoverflow
  · rw [hrun] at hresult ⊢
    rcases hnext answer with hgoes | ⟨failure, hfailure, hstops⟩
    · exact (hgoes _ step reason hresult).behind _
    · obtain ⟨more, hstop⟩ := hstops { tag with device }
      rw [Outcome.andThen_ok, hstop] at hresult ⊢
      cases hresult
      exact ⟨List.map .logged lines, call answer, more, by simp, hfailure⟩

theorem stops_abandon {failure : HandlingError} :
    Stops (abandon failure : Handler σ α) failure :=
  fun _ ↦ ⟨[], rfl⟩

theorem Stops.bind {act : Handler σ β} {failure : HandlingError} (hstops : Stops act failure)
    (next : β → Handler σ α) : Stops (act >>= next) failure := by
  intro tag
  obtain ⟨lines, hrun⟩ := hstops tag
  exact ⟨lines, by rw [Act.run_bind, hrun, Outcome.andThen_error]⟩

theorem Stops.log {next : Unit → Handler σ α} {failure : HandlingError}
    (hstops : Stops (next ()) failure) (line : Line) :
    Stops (MonadLog.log line >>= next) failure := by
  intro tag
  obtain ⟨lines, hrun⟩ := hstops tag
  refine ⟨line :: lines, ?_⟩
  rw [Act.run_bind, Act.run_log, Outcome.andThen_ok, hrun, Outcome.behind_mk]
  rfl

end Rules

section Steps

theorem abandonsAtCall_pure {value : α} : AbandonsAtCall (pure value : Handler σ α) :=
  abandonsAtCall_of_ends fun tag ↦ by simp

theorem abandonsAtCall_log {line : Line} :
    AbandonsAtCall (MonadLog.log line : Handler σ Unit) :=
  abandonsAtCall_of_ends fun tag ↦ by simp

theorem abandonsAtCall_ledger : AbandonsAtCall (ledger : Handler σ Ledger) :=
  abandonsAtCall_of_ends fun tag ↦ by simp

theorem abandonsAtCall_modifyLedger {change : Ledger → Ledger} :
    AbandonsAtCall (modifyLedger change : Handler σ Unit) :=
  abandonsAtCall_of_ends fun tag ↦ by simp

theorem abandonsAtCall_arm {timer : Timer} {wait : Duration} :
    AbandonsAtCall (arm timer wait : Handler σ Unit) :=
  abandonsAtCall_of_ends fun tag ↦ ends_arm (by simp) (by simp)

theorem abandonsAtCall_schedule {cause : ResetCause} {delay : Duration} :
    AbandonsAtCall (Reset.schedule cause delay : Handler σ Unit) :=
  abandonsAtCall_of_ends fun tag ↦ Reset.ends_schedule (by simp) (by simp)

theorem abandonsAtCall_withdraw : AbandonsAtCall (Reset.withdraw : Handler σ Unit) :=
  abandonsAtCall_of_ends fun tag ↦ by simp

variable [Device σ]

theorem abandonsAtCall_suspendRotation {suspend : Bool} :
    AbandonsAtCall (suspendRotation suspend : Handler σ Unit) :=
  abandonsAtCall_of_ends fun tag ↦ ends_suspendRotation (by simp)

theorem abandonsAtCall_offerUpdates {offer : Bool} :
    AbandonsAtCall (offerUpdates offer : Handler σ Unit) :=
  abandonsAtCall_of_ends fun tag ↦ ends_offerUpdates (by simp)

theorem abandonsAtCall_indicate {state : Indication} {active : Bool} :
    AbandonsAtCall (indicate state active : Handler σ Unit) :=
  abandonsAtCall_of_ends fun tag ↦ ends_indicate (by simp)

theorem calls_advertise {mode : AdvertisingMode} :
    Calls (advertise mode : Handler σ (Except DeviceError Unit)) (.advertise mode) := by
  intro tag
  let out := (Device.advertise mode).run tag.device
  exact .inr ⟨out.value.1, out.value.2, out.trace, rfl⟩

theorem calls_holdsKey : Calls (holdsKey : Handler σ (Except DeviceError Bool)) .holdsKey := by
  intro tag
  exact .inr ⟨(Device.holdsKey tag.device).value, tag.device, (Device.holdsKey tag.device).trace,
    by simp [holdsKey, Except.map]⟩

theorem calls_openWindow {mode : ReadMode} :
    Calls (openWindow mode : Handler σ (Except DeviceError Unit))
      fun answer ↦ .openWindow mode (answer.mapError .failed) := by
  intro tag
  let out := (Device.openWindow mode).run tag.device
  rcases hopened : ((Device.openWindow mode).run tag.device).value.1 with
    (overflow | reason) | _
  · exact .inl ⟨overflow, by simp [openWindow, hopened, Stop.settle]⟩
  · exact .inr ⟨.error reason, out.value.2, out.trace, by
      simp [out, openWindow, hopened, Stop.settle, Except.map]⟩
  · exact .inr ⟨.ok (), out.value.2, out.trace, by
      simp [out, openWindow, hopened, Stop.settle, Except.map]⟩

end Steps

end Handler

open Handler

section Handlers

variable {σ : Type} [Device σ]

theorem Provisioning.abandonsAtCall_refreshKeyPresent :
    AbandonsAtCall (Provisioning.refreshKeyPresent : Handler σ Bool) := by
  unfold Provisioning.refreshKeyPresent
  refine abandonsAtCall_call calls_holdsKey fun answer ↦ ?_
  cases answer with
  | ok present =>
    exact .inl (abandonsAtCall_bind abandonsAtCall_modifyLedger fun _ ↦ abandonsAtCall_pure)
  | error reason => exact .inr ⟨_, rfl, stops_abandon.log _⟩

theorem Provisioning.abandonsAtCall_scheduleMismatchReset {config : Config}
    {keyPresent provisioned : Bool} : AbandonsAtCall
      (Provisioning.scheduleMismatchReset config keyPresent provisioned : Handler σ Unit) :=
  abandonsAtCall_of_ends fun tag ↦ ends_scheduleMismatchReset (by simp) (by simp)

theorem Provisioning.abandonsAtCall_selectAdvertising {provisioned : Bool} :
    AbandonsAtCall (Provisioning.selectAdvertising provisioned : Handler σ Unit) := by
  unfold Provisioning.selectAdvertising
  refine abandonsAtCall_bind abandonsAtCall_ledger fun ledger ↦
    abandonsAtCall_call calls_advertise fun answer ↦ ?_
  cases answer with
  | ok _ =>
    exact .inl (abandonsAtCall_bind abandonsAtCall_modifyLedger fun _ ↦ abandonsAtCall_log)
  | error reason => exact .inr ⟨_, rfl, (stops_abandon.bind _).log _⟩

theorem Provisioning.abandonsAtCall_stateReported {config : Config} {provisioned : Bool} :
    AbandonsAtCall (Provisioning.stateReported config provisioned : Handler σ Unit) := by
  have hrest : AbandonsAtCall (do
      let keyPresent ← refreshKeyPresent
      if keyPresent ≠ provisioned then
        scheduleMismatchReset config keyPresent provisioned
      else if (← ledger).resetDone then
        Log.info "Mode: factory reset complete, press a button to start discoverable advertising"
        modifyLedger fun ledger ↦ { ledger with resetDone := false }
      else
        selectAdvertising provisioned : Handler σ Unit) := by
    refine abandonsAtCall_bind abandonsAtCall_refreshKeyPresent fun keyPresent ↦ ?_
    split
    · exact abandonsAtCall_scheduleMismatchReset
    · refine abandonsAtCall_bind abandonsAtCall_ledger fun ledger ↦ ?_
      split
      · exact abandonsAtCall_bind abandonsAtCall_log fun _ ↦ abandonsAtCall_modifyLedger
      · exact abandonsAtCall_selectAdvertising
  unfold Provisioning.stateReported
  refine abandonsAtCall_bind abandonsAtCall_log fun _ ↦
    abandonsAtCall_bind abandonsAtCall_indicate fun _ ↦
    abandonsAtCall_bind abandonsAtCall_modifyLedger fun _ ↦
    abandonsAtCall_bind abandonsAtCall_ledger fun ledger ↦ ?_
  dsimp only
  split
  · exact abandonsAtCall_bind abandonsAtCall_withdraw fun _ ↦
      abandonsAtCall_bind abandonsAtCall_suspendRotation fun _ ↦ hrest
  · exact hrest

theorem Provisioning.abandonsAtCall_keyWritten {config : Config} :
    AbandonsAtCall (Provisioning.keyWritten config : Handler σ Unit) := by
  have hquery : AbandonsAtCall (do let _ ← refreshKeyPresent : Handler σ Unit) :=
    abandonsAtCall_bind abandonsAtCall_refreshKeyPresent fun _ ↦ abandonsAtCall_pure
  unfold Provisioning.keyWritten
  refine abandonsAtCall_bind abandonsAtCall_log fun _ ↦
    abandonsAtCall_call calls_advertise fun answer ↦ ?_
  cases answer with
  | error reason => exact .inr ⟨_, rfl, (stops_abandon.bind _).log _⟩
  | ok _ =>
    refine .inl (abandonsAtCall_bind abandonsAtCall_ledger fun ledger ↦ ?_)
    dsimp only
    split
    · exact hquery
    · exact abandonsAtCall_bind abandonsAtCall_schedule fun _ ↦
        abandonsAtCall_bind abandonsAtCall_suspendRotation fun _ ↦ hquery

theorem Provisioning.abandonsAtCall_clockSynced :
    AbandonsAtCall (Provisioning.clockSynced : Handler σ Unit) := by
  unfold Provisioning.clockSynced
  refine abandonsAtCall_bind abandonsAtCall_ledger fun ledger ↦ ?_
  split
  · refine abandonsAtCall_bind abandonsAtCall_log fun _ ↦
      abandonsAtCall_call calls_advertise fun answer ↦ ?_
    cases answer with
    | ok _ => exact .inl abandonsAtCall_pure
    | error reason => exact .inr ⟨_, rfl, stops_abandon⟩
  · exact abandonsAtCall_log

theorem TimedMode.abandonsAtCall_openReadWindow {mode : ReadMode} :
    AbandonsAtCall (TimedMode.openReadWindow mode : Handler σ Unit) := by
  unfold TimedMode.openReadWindow
  refine abandonsAtCall_call calls_openWindow fun answer ↦ ?_
  cases answer with
  | ok _ => exact .inl abandonsAtCall_pure
  | error reason => exact .inr ⟨_, rfl, stops_abandon.log _⟩

theorem TimedMode.abandonsAtCall_openUpdateTransport :
    AbandonsAtCall (TimedMode.openUpdateTransport : Handler σ Unit) := by
  unfold TimedMode.openUpdateTransport
  refine abandonsAtCall_bind abandonsAtCall_ledger fun ledger ↦
    abandonsAtCall_call calls_advertise fun answer ↦ ?_
  cases answer with
  | ok _ => exact .inl abandonsAtCall_offerUpdates
  | error reason => exact .inr ⟨_, rfl, (stops_abandon.bind _).log _⟩

theorem TimedMode.abandonsAtCall_enter {config : Config} {mode : Mode} :
    AbandonsAtCall (TimedMode.enter config mode : Handler σ Unit) := by
  have hstart : ∀ (wasActive : Bool) (refreshed entered : String), AbandonsAtCall (do
      arm mode.timer (mode.window config)
      modifyLedger fun ledger ↦ ledger.withActive mode true
      indicate mode.indication true
      if wasActive then
        Log.info refreshed
      else
        Log.info entered : Handler σ Unit) := by
    intro wasActive refreshed entered
    refine abandonsAtCall_bind abandonsAtCall_arm fun _ ↦
      abandonsAtCall_bind abandonsAtCall_modifyLedger fun _ ↦
      abandonsAtCall_bind abandonsAtCall_indicate fun _ ↦ ?_
    split
    · exact abandonsAtCall_log
    · exact abandonsAtCall_log
  unfold TimedMode.enter
  refine abandonsAtCall_bind abandonsAtCall_ledger fun before ↦ ?_
  split
  · exact abandonsAtCall_log
  · cases mode with
    | recovery =>
      exact abandonsAtCall_bind abandonsAtCall_openReadWindow fun _ ↦ hstart _ _ _
    | identification =>
      exact abandonsAtCall_bind abandonsAtCall_openReadWindow fun _ ↦ hstart _ _ _
    | dfu => exact abandonsAtCall_bind abandonsAtCall_openUpdateTransport fun _ ↦ hstart _ _ _

end Handlers

/-! ### Failed events -/

namespace Engine

variable {config : Config} {before after : Memory} {event : Event} {calls : List Call}
  {step : String} {reason : DeviceError}

/-- Whether the handling of an event can be abandoned at a direction that fails. -/
def isAbandonable : Event → Bool
  | .readModeExited _ => false
  | .commandReceived _ => false
  | .timerExpired _ => false
  | _ => true

theorem ResetExpired.ne_stepFailed {result : Except (Stop HandlingError) Unit}
    (hexpired : ResetExpired before calls result after) :
    result ≠ .error (.failed (.stepFailed step reason)) := by
  obtain ⟨hexpired⟩ := hexpired
  cases hexpired <;> simp [Except.map]

theorem Effect.isAbandonable
    (heffect : Effect config before event calls (.error (.failed (.stepFailed step reason))) after) :
    isAbandonable event = true := by
  cases event with
  | readModeExited mode => cases heffect
  | commandReceived command => cases heffect
  | timerExpired timer =>
    unfold Effect at heffect
    cases hmode : Mode.ofTimer timer with
    | some mode =>
      simp only [hmode] at heffect
      cases heffect
    | none =>
      simp only [hmode] at heffect
      exact absurd rfl heffect.ne_stepFailed
  | _ => rfl

/-- No event is abandoned except at a call that fails. -/
theorem abandonsAtCall_handle {σ : Type} [Device σ] :
    AbandonsAtCall (handle config event : Handler σ Unit) := by
  by_cases habandonable : Engine.isAbandonable event = true
  · cases event with
    | provisioningChanged provisioned => exact Provisioning.abandonsAtCall_stateReported
    | accountKeyWritten => exact Provisioning.abandonsAtCall_keyWritten
    | clockSynced => exact Provisioning.abandonsAtCall_clockSynced
    | requested request =>
      exact abandonsAtCall_bind abandonsAtCall_log fun _ ↦ TimedMode.abandonsAtCall_enter
    | _ => cases habandonable
  · refine abandonsAtCall_of_ends fun tag ↦ ends_handle.mono ?_
    rintro calls result after heffect step reason rfl
    exact habandonable heffect.isAbandonable

end Engine

/-- What an event that is abandoned leaves alone. -/
structure Memory.Spares (before after : Memory) : Prop where
  window : ∀ mode, after.window mode = before.window mode
  resetDone : after.ledger.resetDone = before.ledger.resetDone
  firstCallback : after.ledger.firstCallback = before.ledger.firstCallback

theorem Memory.Spares.refl (memory : Memory) : memory.Spares memory :=
  ⟨fun _ ↦ rfl, rfl, rfl⟩

section Effects

variable {config : Config} {before after : Memory} {calls : List Call}
  {result : Except (Stop HandlingError) Unit}

theorem Provisioning.Reported.spares {provisioned : Bool} {stop : Stop HandlingError}
    (hreported : Reported config provisioned before calls (.error stop) after) :
    before.Spares after := by
  refine ⟨hreported.window, ?_, ?_⟩ <;> cases hreported <;> rfl

theorem Provisioning.KeyWritten.spares (hwritten : KeyWritten config before calls result after) :
    before.Spares after := by
  refine ⟨hwritten.window, ?_, ?_⟩ <;> cases hwritten <;> rfl

theorem Provisioning.KeyWritten.unchanged {mode : AdvertisingMode} {reason : DeviceError}
    (hwritten : KeyWritten config before calls result after)
    (hfailed : .advertise mode (.error reason) ∈ calls) : after = before := by
  cases hwritten with
  | notAdvertised => rfl
  | _ => simp at hfailed

theorem TimedMode.Entered.unchanged {mode : Mode} {stop : Stop HandlingError}
    (hentered : Entered config mode before calls (.error stop) after) : after = before := by
  cases hentered <;> rfl

theorem TimedMode.Entered.quiet {mode : Mode} {failure : HandlingError}
    (hentered : Entered config mode before calls (.error (.failed failure)) after) :
    calls.all Engine.isQuiet = true := by
  cases hentered with
  | notOpened hallowed hfailed => cases hfailed <;> rfl

theorem Engine.Effect.spares {event : Event} {step : String} {reason : DeviceError}
    (heffect : Effect config before event calls (.error (.failed (.stepFailed step reason))) after) :
    before.Spares after := by
  have habandonable := heffect.isAbandonable
  cases event with
  | provisioningChanged provisioned => exact Provisioning.Reported.spares heffect
  | accountKeyWritten => exact Provisioning.KeyWritten.spares heffect
  | clockSynced =>
    rw [Provisioning.ClockSynced.unchanged heffect]
    exact .refl _
  | requested request =>
    rw [TimedMode.Entered.unchanged heffect]
    exact .refl _
  | _ => cases habandonable

/-! ### Failures that are tolerated -/

theorem Ledger.withActive_of_inactive {ledger : Ledger} {mode : Mode}
    (hinactive : ledger.isActive mode = false) : ledger.withActive mode false = ledger := by
  rw [← hinactive]
  cases mode <;> rfl

/-- A mode is left completely, whatever the radio answers. -/
theorem TimedMode.Left.complete {mode : Mode} (hleft : Left mode before calls result after) :
    result = .ok () ∧ after = { before with ledger := before.ledger.withActive mode false } ∧
      ∃ stopped, calls = if before.ledger.isActive mode then leaving stopped mode else [] := by
  cases hleft with
  | inactive hinactive =>
    rw [Ledger.withActive_of_inactive hinactive]
    exact ⟨rfl, rfl, .ok (), by simp [hinactive]⟩
  | left stopped hactive => exact ⟨rfl, rfl, stopped, by simp [hactive]⟩

/-- A reset is scheduled when the keys dispute a report, whatever the radio answers, unless its
deadline lies past the last instant. -/
theorem Provisioning.Reported.disputed {provisioned : Bool}
    (hreported : Reported config provisioned before calls result after)
    (hdisputed : .holdsKey (.ok !provisioned) ∈ calls) :
    (∃ stopped, calls = noting before provisioned ++
        [.holdsKey (.ok !provisioned), .advertise .off stopped] ++
        resumption (noted before provisioned).ledger.pending) ∧
      (∀ failure, result ≠ .error (.failed failure)) ∧
      (before.timers.now + config.mismatchDelay < Instant.limit → result = .ok () ∧
        after.reset = (some .keyMismatch, some (before.timers.now + config.mismatchDelay))) := by
  have hanswered : calls.any (Call.answersKey !provisioned) = true :=
    List.any_eq_true.mpr ⟨_, hdisputed, by simp [Call.answersKey]⟩
  cases hreported with
  | mismatch stopped hroom =>
    exact ⟨⟨stopped, rfl⟩, by simp, fun _ ↦ ⟨rfl, Reset.reset_scheduled ..⟩⟩
  | tooLate stopped hlate =>
    exact ⟨⟨stopped, rfl⟩, by simp, fun hroom ↦ absurd hroom (Nat.not_lt.mpr hlate)⟩
  | _ => simp [Call.answersKey] at hanswered

end Effects

/-! ### What a device shows -/

/-- A view of a device that only the directions to rotate the address, to offer updates and to show
a condition change. -/
def Device.IsDirected {σ α : Type} [Device σ] (view : σ → α) : Prop :=
  ∀ device call after, Device.Obeys device call after → Engine.isQuiet call = true →
    view after = view device

theorem Device.ObeysAll.view_of_isQuiet {σ α : Type} [Device σ] {view : σ → α} {device after : σ}
    {calls : List Call} (hobeys : Device.ObeysAll device calls after)
    (hview : Device.IsDirected view) (hquiet : calls.all Engine.isQuiet = true) :
    view after = view device := by
  induction hobeys with
  | nil => rfl
  | cons hfirst hrest ih =>
    rw [List.all_cons, Bool.and_eq_true] at hquiet
    rw [ih hquiet.2, hview _ _ _ hfirst hquiet.1]

/-- The offer of the update transport and the light are such views. -/
theorem Peripherals.isDirected_offer_light :
    Device.IsDirected fun parts : Peripherals ↦ (parts.advertising.updatesOffered, parts.light) := by
  intro parts call after hobeys hquiet
  have hoffer : after.advertising.updatesOffered = parts.advertising.updatesOffered := by
    rw [advertising_obeys hobeys, Advertising.updatesOffered_afterCall]
    cases call <;> first | rfl | cases hquiet
  have hlight : after.light = parts.light := by
    cases hobeys <;> first | rfl | cases hquiet
  exact Prod.ext hoffer hlight

/-! ### Failing directions -/

namespace Engine

open TimedMode Provisioning

/-- A direction that fails ends the handling of an event there, or is tolerated.

An event that is abandoned makes no call and writes nothing after the one that failed. It leaves the
windows of all modes and the two flags of the provisioning callbacks as they were; a request, a
synchronised clock and a key whose advertisement is refused leave the whole memory as it was, and a
request also what the device offers and shows.

Where a failure is tolerated, nothing is left out: the end of a mode by its timer or by the beacon
succeeds with all its calls whether or not the radio stops, and so does the scheduling of a reset
when the keys dispute a report. -/
theorem failing_events_abandon_cleanly {σ : Type} [Device σ] (config : Config) (event : Event)
    (tag : Tag σ) :
    let out := (handle config event).run tag
    let before := tag.toMemory
    let after := out.state.toMemory
    let calls := Trace.calls out.trace
    (∀ step reason, out.result = .error (.failed (.stepFailed step reason)) →
      (∃ earlier call lines, out.trace = earlier ++ .called after call :: List.map .logged lines ∧
        call.failure? = some (.stepFailed step reason)) ∧
      (∀ mode, after.ledger.isActive mode = before.ledger.isActive mode ∧
        after.timers.deadline mode.timer = before.timers.deadline mode.timer) ∧
      after.ledger.resetDone = before.ledger.resetDone ∧
      after.ledger.firstCallback = before.ledger.firstCallback ∧
      ((∃ request, event = .requested request) ∨ event = .clockSynced ∨
        (event = .accountKeyWritten ∧ .advertise .notDiscoverable (.error reason) ∈ calls) →
        after = before) ∧
      ∀ request, event = .requested request → calls.all isQuiet = true ∧
        ∀ {α : Type} (view : σ → α), Device.IsDirected view →
          view out.state.device = view tag.device) ∧
    (∀ mode, event = .timerExpired mode.timer → out.result = .ok () ∧
      after = { before with ledger := before.ledger.withActive mode false } ∧
      ∃ stopped, calls = if before.ledger.isActive mode then leaving stopped mode else []) ∧
    (∀ readMode mode, event = .readModeExited readMode → mode = Mode.ofReadMode readMode →
      out.result = .ok () ∧
      after = { before with
        ledger := before.ledger.withActive mode false
        timers := before.timers.withDeadline mode.timer none } ∧
      ∃ stopped, calls = if before.ledger.isActive mode then leaving stopped mode else []) ∧
    ∀ provisioned, event = .provisioningChanged provisioned →
      .holdsKey (.ok !provisioned) ∈ calls →
      (∃ stopped, calls = noting before provisioned ++
        [.holdsKey (.ok !provisioned), .advertise .off stopped] ++
        resumption (noted before provisioned).ledger.pending) ∧
      (∀ failure, out.result ≠ .error (.failed failure)) ∧
      (before.timers.now + config.mismatchDelay < Instant.limit → out.result = .ok () ∧
        after.reset = (some .keyMismatch, some (before.timers.now + config.mismatchDelay))) := by
  intro out before after calls
  have heffect : Effect config before event calls out.result after :=
    (@ends_handle σ _ tag config event).2
  have hobeys : Device.ObeysAll tag.device calls out.state.device := directs_handle tag
  refine ⟨fun step reason hfailed ↦ ?_, ?_, ?_, ?_⟩
  · have hspares : before.Spares after := by
      rw [hfailed] at heffect
      exact heffect.spares
    refine ⟨abandonsAtCall_handle tag step reason hfailed, fun mode ↦ ?_, hspares.resetDone,
      hspares.firstCallback, ?_, ?_⟩
    · exact Prod.mk.injEq .. |>.mp (hspares.window mode)
    · rw [hfailed] at heffect
      rintro (⟨request, rfl⟩ | rfl | ⟨rfl, hrefused⟩)
      · exact TimedMode.Entered.unchanged heffect
      · exact Provisioning.ClockSynced.unchanged heffect
      · exact Provisioning.KeyWritten.unchanged heffect hrefused
    · rintro request rfl
      rw [hfailed] at heffect
      have hquiet : calls.all isQuiet = true := TimedMode.Entered.quiet heffect
      exact ⟨hquiet, fun view hview ↦ hobeys.view_of_isQuiet hview hquiet⟩
  · rintro mode rfl
    simp only [Effect, Mode.ofTimer_timer] at heffect
    exact heffect.complete
  · rintro readMode mode rfl rfl
    exact TimedMode.Left.complete heffect
  · rintro provisioned rfl hdisputed
    exact Provisioning.Reported.disputed heffect hdisputed

/-- The update mode is asked for again, and the radio is not ready: the mode stays as it was, with
its deadline, its offer and its light. -/
theorem refused_refresh_keeps_update_mode :
    let tag : Tag Peripherals :=
      { ledger := { dfu := true }
        timers := { now := 100, dfu := some 600 }
        device :=
          { advertising := { updatesOffered := true }, windows := .create {} 0
            light := { dfu := true } } }
    let out := (handle {} (.requested .dfu)).run tag
    out.result = .error (.failed (.stepFailed "set advertising mode" .unavailable)) ∧
      out.state.toMemory = tag.toMemory ∧
      out.state.device.advertising.updatesOffered = true ∧
      out.state.device.light = { dfu := true } := by
  intro tag out
  have hresult : out.result = .error (.failed (.stepFailed "set advertising mode" .unavailable)) :=
    rfl
  obtain ⟨hfailed, -⟩ := failing_events_abandon_cleanly {} (.requested .dfu) tag
  obtain ⟨-, -, -, -, hmemory, hrequest⟩ := hfailed _ _ hresult
  obtain ⟨-, hview⟩ := hrequest .dfu rfl
  have hshown := hview _ Peripherals.isDirected_offer_light
  exact ⟨hresult, hmemory (.inl ⟨.dfu, rfl⟩), congrArg Prod.fst hshown, congrArg Prod.snd hshown⟩

end Engine

end TagControl
