import TagControl.Controller.Windows
import TagControl.Proofs.Controller
import TagControl.Proofs.Directions
import TagControl.Proofs.Windows
/-!
The read windows of a controller that directs its own peripherals. Moving the windows to an instant
closes exactly those that are due and reports only windows that have closed
(`ReadWindows.advance_report`). After that they change only by the calls of the pass, and of these
only an opening that succeeds counts (`ReadWindows.afterCall`). Seen from the events that are
handled, a window is opened by exactly those that open the window of its mode
(`Engine.Deliveries.closing`).
-/

set_option autoImplicit false

namespace TagControl

theorem EventQueue.events_post (queue : EventQueue) (event : Event) :
    ((EventQueue.post event).run queue).value.2.events = queue.events ++ [event] ∨
      ((EventQueue.post event).run queue).value.2.events = queue.events := by
  unfold EventQueue.post
  simp only [StateT.run_bind, StateT.run_get]
  cases hpush : queue.push? event with
  | none => exact .inr (by simp [hpush, Log.warn])
  | some after => exact .inl (by simpa [hpush] using EventQueue.events_push? hpush)

namespace ReadWindows

/-! ### Time -/

/-- The windows moved to an instant: those that are due are closed. -/
def movedTo (windows : ReadWindows) (now : Instant) : ReadWindows :=
  { windows with
    now := max windows.now now
    recovery := windows.recovery.filter (max windows.now now < ·)
    identification := windows.identification.filter (max windows.now now < ·) }

@[simp] theorem now_movedTo (windows : ReadWindows) (now : Instant) :
    (windows.movedTo now).now = max windows.now now := rfl

@[simp] theorem length_movedTo (windows : ReadWindows) (now : Instant) (mode : ReadMode) :
    (windows.movedTo now).length mode = windows.length mode := by
  cases mode <;> rfl

@[simp] theorem closing_movedTo (windows : ReadWindows) (now : Instant) (mode : ReadMode) :
    (windows.movedTo now).closing mode =
      (windows.closing mode).filter (max windows.now now < ·) := by
  cases mode <;> rfl

theorem value_closeIfDue (mode : ReadMode) (windows : ReadWindows) (queue : EventQueue) :
    ((closeIfDue mode).run (windows, queue)).value.2 =
      if windows.isDue mode then
        (windows.withClosing mode none,
          ((EventQueue.post (.readModeExited mode)).run queue).value.2)
      else (windows, queue) := by
  unfold closeIfDue
  simp only [StateT.run_bind, StateT.run_get]
  by_cases hdue : windows.isDue mode = true
  · cases hposted : ((EventQueue.post (.readModeExited mode)).run queue).value.1 with
    | true => simp [hdue, hposted, Log.info]
    | false => simp [hdue, hposted, Log.info, Log.warn]
  · simp [hdue]

theorem withClosing_closing (windows : ReadWindows) (mode : ReadMode) :
    windows.withClosing mode (windows.closing mode) = windows := by
  cases mode <;> rfl

theorem filter_closing (windows : ReadWindows) (mode : ReadMode) :
    (windows.closing mode).filter (windows.now < ·) =
      if windows.isDue mode then none else windows.closing mode := by
  unfold isDue
  cases windows.closing mode with
  | none => rfl
  | some closing =>
    by_cases hreached : closing ≤ windows.now
    · simp [hreached]
    · simp [hreached, Nat.lt_of_not_le hreached]

/-- Closing one window if it is due leaves at most one report, of that window. -/
theorem closeIfDue_report (mode : ReadMode) (windows : ReadWindows) (queue : EventQueue) :
    ∃ reports queued, ((closeIfDue mode).run (windows, queue)).value.2 =
        (windows.withClosing mode ((windows.closing mode).filter (windows.now < ·)), queued) ∧
      queued.events = queue.events ++ reports ∧
      ∀ report ∈ reports, report = .readModeExited mode ∧
        (windows.closing mode).filter (windows.now < ·) = none := by
  rw [value_closeIfDue, filter_closing]
  cases hdue : windows.isDue mode with
  | true =>
    obtain hqueued | hlost := EventQueue.events_post queue (.readModeExited mode)
    · exact ⟨[.readModeExited mode], _, rfl, hqueued, by simp⟩
    · exact ⟨[], _, rfl, by simpa using hlost, by simp⟩
  | false =>
    simp only [Bool.false_eq_true, if_false, withClosing_closing]
    exact ⟨[], queue, rfl, by simp, by simp⟩

/-- Moving the windows to an instant reports only windows that it leaves closed. -/
theorem advance_report (now : Instant) (windows : ReadWindows) (queue : EventQueue) :
    ∃ reports queued, ((advance now).run (windows, queue)).value.2 =
        (windows.movedTo now, queued) ∧
      queued.events = queue.events ++ reports ∧
      ∀ report ∈ reports, ∃ mode, report = .readModeExited mode ∧
        (windows.movedTo now).closing mode = none := by
  obtain ⟨first, queued, hfirst, hqueued, hrecovery⟩ :=
    closeIfDue_report .recovery { windows with now := max windows.now now } queue
  obtain ⟨second, final, hsecond, hfinal, hidentification⟩ :=
    closeIfDue_report .identification
      (withClosing { windows with now := max windows.now now } .recovery
        ((closing { windows with now := max windows.now now } .recovery).filter
          (max windows.now now < ·))) queued
  have hrun : ((advance now).run (windows, queue)).value.2 =
      ((closeIfDue .identification).run ((closeIfDue .recovery).run
        ({ windows with now := max windows.now now }, queue)).value.2).value.2 := rfl
  refine ⟨first ++ second, final, ?_, ?_, ?_⟩
  · rw [hrun, hfirst, hsecond]
    rfl
  · rw [hfinal, hqueued, List.append_assoc]
  · rw [List.forall_mem_append]
    constructor
    · intro report hreport
      obtain ⟨rfl, hclosed⟩ := hrecovery report hreport
      exact ⟨.recovery, rfl, hclosed⟩
    · intro report hreport
      obtain ⟨rfl, hclosed⟩ := hidentification report hreport
      exact ⟨.identification, rfl, hclosed⟩

/-! ### Calls -/

theorem value_enter (mode : ReadMode) (windows : ReadWindows) :
    ((enter mode).run windows).value =
      if windows.now + windows.length mode < Instant.limit then
        (.ok (), windows.withClosing mode (some (windows.now + windows.length mode)))
      else
        (.error .pastLastInstant, windows) := by
  unfold enter
  simp only [StateT.run_bind, StateT.run_get]
  by_cases hroom : windows.now + windows.length mode < Instant.limit
  · have hafter := Instant.after_eq_ok.mpr ⟨rfl, hroom⟩
    simp [Log.info, hafter, hroom]
  · have hafter := Instant.after_eq_error.mpr (Nat.le_of_not_lt hroom)
    simp [hafter, hroom]

/-- The windows after a call: an opening that succeeds counts from the clock of the windows. -/
def afterCall (windows : ReadWindows) : Call → ReadWindows
  | .openWindow mode (.ok ()) =>
    windows.withClosing mode (some (windows.now + windows.length mode))
  | _ => windows

@[simp] theorem now_afterCall (windows : ReadWindows) (call : Call) :
    (windows.afterCall call).now = windows.now := by
  unfold afterCall
  split <;> simp

@[simp] theorem length_afterCall (windows : ReadWindows) (call : Call) (mode : ReadMode) :
    (windows.afterCall call).length mode = windows.length mode := by
  unfold afterCall
  split <;> simp

/-- The windows after calls made one after the other. -/
def afterCalls (windows : ReadWindows) (calls : List Call) : ReadWindows :=
  calls.foldl afterCall windows

@[simp] theorem afterCalls_nil (windows : ReadWindows) : windows.afterCalls [] = windows := rfl

@[simp] theorem afterCalls_cons (windows : ReadWindows) (call : Call) (calls : List Call) :
    windows.afterCalls (call :: calls) = (windows.afterCall call).afterCalls calls := rfl

@[simp] theorem afterCalls_append (windows : ReadWindows) (first second : List Call) :
    windows.afterCalls (first ++ second) = (windows.afterCalls first).afterCalls second :=
  List.foldl_append

@[simp] theorem now_afterCalls (windows : ReadWindows) (calls : List Call) :
    (windows.afterCalls calls).now = windows.now := by
  induction calls generalizing windows with
  | nil => rfl
  | cons call calls ih => rw [afterCalls_cons, ih, now_afterCall]

@[simp] theorem length_afterCalls (windows : ReadWindows) (calls : List Call) (mode : ReadMode) :
    (windows.afterCalls calls).length mode = windows.length mode := by
  induction calls generalizing windows with
  | nil => rfl
  | cons call calls ih => rw [afterCalls_cons, ih, length_afterCall]

end ReadWindows

/-- Of the directions to the peripherals only an opening touches the windows. -/
theorem Peripherals.windows_obeys {parts after : Peripherals} {call : Call}
    (hobeys : Device.Obeys parts call after) : after.windows = parts.windows.afterCall call := by
  cases hobeys with
  | openWindow mode =>
    show (((ReadWindows.enter mode).run parts.windows).value.2 : ReadWindows) =
      parts.windows.afterCall (.openWindow mode
        (((ReadWindows.enter mode).run parts.windows).value.1.mapError .clockOverflow))
    rw [ReadWindows.value_enter]
    split <;> rfl
  | _ => rfl

theorem Peripherals.windows_obeysAll {parts after : Peripherals} {calls : List Call}
    (hobeys : Device.ObeysAll parts calls after) :
    after.windows = parts.windows.afterCalls calls := by
  induction hobeys with
  | nil => rfl
  | cons hfirst hrest ih =>
    rw [ih, windows_obeys hfirst]
    rfl

/-! ### Events -/

section Effects

variable {config : Config} {before after : Memory} {calls : List Call}
  {result : Except (Stop HandlingError) Unit}

@[simp] theorem Provisioning.afterCalls_noting (windows : ReadWindows) (memory : Memory)
    (provisioned : Bool) : windows.afterCalls (noting memory provisioned) = windows := by
  unfold noting
  split <;> rfl

@[simp] theorem Provisioning.afterCalls_resumption (windows : ReadWindows)
    (cause : Option ResetCause) : windows.afterCalls (resumption cause) = windows := by
  unfold resumption
  split <;> rfl

theorem TimedMode.Left.afterCalls {mode : Mode} (hleft : Left mode before calls result after)
    (windows : ReadWindows) : windows.afterCalls calls = windows := by
  cases hleft with
  | inactive hinactive => rfl
  | left stopped hactive => cases mode <;> rfl

/-- Only an entry into a mode directs the beacon to open a window. -/
theorem Engine.Effect.afterCalls {event : Event}
    (heffect : Effect config before event calls result after)
    (hother : ∀ request, event ≠ .requested request) (windows : ReadWindows) :
    windows.afterCalls calls = windows := by
  cases event with
  | provisioningChanged provisioned =>
    cases heffect <;> simp [ReadWindows.afterCall]
  | accountKeyWritten => cases heffect <;> rfl
  | readModeExited mode => exact TimedMode.Left.afterCalls heffect windows
  | clockSynced => cases heffect <;> rfl
  | commandReceived command => cases heffect <;> rfl
  | requested request => exact absurd rfl (hother request)
  | timerExpired timer =>
    cases hmode : Mode.ofTimer timer with
    | some mode =>
      simp only [Effect, hmode] at heffect
      exact heffect.afterCalls windows
    | none =>
      simp only [Effect, hmode] at heffect
      obtain ⟨hexpired⟩ := heffect
      rw [ReadWindows.afterCalls_append, Provisioning.afterCalls_resumption]
      cases hexpired <;> rfl

/-- The calls that open a mode and show it open the read window of that mode alone. -/
theorem TimedMode.closing_opening (windows : ReadWindows) (provisioned : Bool) (opened : Mode)
    (mode : ReadMode) :
    (windows.afterCalls (opening provisioned opened ++ [.indicate opened.indication true])).closing
        mode =
      if opened = .ofReadMode mode then some (windows.now + windows.length mode)
      else windows.closing mode := by
  cases opened <;> cases mode <;> rfl

theorem TimedMode.OpeningFailed.afterCalls {provisioned : Bool} {mode : Mode}
    {reason : Stop HandlingError} (hfailed : OpeningFailed provisioned mode calls reason)
    (windows : ReadWindows) : windows.afterCalls calls = windows := by
  cases hfailed <;> rfl

theorem TimedMode.Entered.closing {request : Request} {outcome : Except HandlingError Unit}
    (hentered : Entered config request.mode before calls (outcome.mapError .failed) after)
    (windows : ReadWindows) (mode : ReadMode) : (windows.afterCalls calls).closing mode =
      if Handling.opens (.ofReadMode mode) ⟨before, .requested request, outcome⟩ then
        some (windows.now + windows.length mode)
      else windows.closing mode := by
  generalize hresult : outcome.mapError Stop.failed = result at hentered
  cases outcome with
  | error reason =>
    cases hentered with
    | notOpened hallowed hfailed => rw [hfailed.afterCalls]; rfl
    | refused hrefused => cases hresult
    | tooLate hallowed hlate => cases hresult
    | entered hallowed hroom => cases hresult
  | ok _ =>
    by_cases hmode : request.mode = .ofReadMode mode
    · cases hentered with
      | refused hrefused => simp [Handling.opens, ← hmode, hrefused]
      | notOpened hallowed hfailed => cases hresult
      | tooLate hallowed hlate => cases hresult
      | entered hallowed hroom =>
        rw [closing_opening, if_pos hmode]
        simp [Handling.opens, ← hmode, hallowed]
    · cases hentered with
      | refused hrefused => simp [Handling.opens, hmode]
      | notOpened hallowed hfailed => cases hresult
      | tooLate hallowed hlate => cases hresult
      | entered hallowed hroom =>
        rw [closing_opening, if_neg hmode]
        simp [Handling.opens, hmode]

/-- The handling of an event opens the read window of exactly the modes whose window it opens. -/
theorem Engine.Effect.closing {event : Event} {outcome : Except HandlingError Unit}
    (heffect : Effect config before event calls (outcome.mapError .failed) after)
    (windows : ReadWindows) (mode : ReadMode) : (windows.afterCalls calls).closing mode =
      if Handling.opens (.ofReadMode mode) ⟨before, event, outcome⟩ then
        some (windows.now + windows.length mode)
      else windows.closing mode := by
  by_cases hrequest : ∃ request, event = .requested request
  · obtain ⟨request, rfl⟩ := hrequest
    exact TimedMode.Entered.closing heffect windows mode
  · have hother : ∀ request, event ≠ .requested request :=
      fun request hevent ↦ hrequest ⟨request, hevent⟩
    have hopens : Handling.opens (.ofReadMode mode) ⟨before, event, outcome⟩ = false := by
      cases event with
      | requested request => exact absurd rfl (hother request)
      | commandReceived command => cases mode <;> rfl
      | _ => rfl
    rw [heffect.afterCalls hother, hopens]
    rfl

/-- Of events handled in order, the last that opens the window of a mode decides when its read
window closes, and all of them count from the same instant. -/
theorem Engine.Deliveries.closing {events : List Event} {handlings : List Handling}
    (hdeliveries : Deliveries config before events handlings calls after) (windows : ReadWindows)
    (mode : ReadMode) : (windows.afterCalls calls).closing mode =
      if handlings.any (Handling.opens (.ofReadMode mode)) then
        some (windows.now + windows.length mode)
      else windows.closing mode := by
  induction hdeliveries generalizing windows with
  | nil => rfl
  | cons heffect hrest ih =>
    rw [ReadWindows.afterCalls_append, ih, heffect.closing, List.any_cons,
      ReadWindows.now_afterCalls, ReadWindows.length_afterCalls]
    split
    · next hlater => simp [hlater]
    · next hlater => simp [hlater]

/-- Without an entry no window is touched. -/
theorem Engine.Deliveries.afterCalls {events : List Event} {handlings : List Handling}
    (hdeliveries : Deliveries config before events handlings calls after)
    (hother : ∀ event ∈ events, ∀ request, event ≠ .requested request) (windows : ReadWindows) :
    windows.afterCalls calls = windows := by
  induction hdeliveries with
  | nil => rfl
  | cons heffect hrest ih =>
    rw [List.forall_mem_cons] at hother
    rw [ReadWindows.afterCalls_append, heffect.afterCalls hother.1, ih hother.2]

end Effects

end TagControl
