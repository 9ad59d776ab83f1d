import Mathlib.Data.List.Infix
import TagControl.Proofs.Delivery
import TagControl.Proofs.Passes
import TagControl.Proofs.PendingReset
/-!
Deadlines and the end of the clock. A deadline is computed where a mode is entered, where the update
window is extended, where a reset is scheduled and where a read window opens: one of the lengths of
the configuration is added to a clock, and none of them exceeds `Config.longestWait`. So a
controller that is never told an instant closer than that to the end of the clock never runs out of
it (`InTime`), and every deadline that it keeps is an exact sum (`DeadlinesExact`). For a timer the
clock is the one that the handling of some event found, for a read window the one that the windows
had in some step, and the deadline has stood since (`StandsSince`).
-/

set_option autoImplicit false

namespace TagControl

/-! ### Lengths -/

/-- A product that fits in 64 bits is exact. -/
theorem Duration.toNat_mul64 {first second : UInt64}
    (hroom : first.toNat * second.toNat < Instant.limit) :
    (first * second).toNat = first.toNat * second.toNat := by
  rw [UInt64.toNat_mul]
  exact Nat.mod_eq_of_lt hroom

/-- Seconds in microseconds, computed in 64 bits. -/
def Duration.ofSeconds64 (seconds : UInt64) : UInt64 :=
  seconds * 1000000

def Duration.ofMinutes64 (minutes : UInt64) : UInt64 :=
  ofSeconds64 (minutes * 60)

theorem Duration.toNat_ofSeconds64 {seconds : UInt64} (hseconds : seconds.toNat ≤ 65535 * 60) :
    (ofSeconds64 seconds).toNat = ofSeconds seconds.toNat :=
  toNat_mul64 (Nat.lt_of_le_of_lt (Nat.mul_le_mul_right _ hseconds) (by decide))

theorem Duration.toNat_ofMinutes64 {minutes : UInt64} (hminutes : minutes.toNat ≤ 65535) :
    (ofMinutes64 minutes).toNat = ofMinutes minutes.toNat := by
  have hseconds : (minutes * 60).toNat = minutes.toNat * 60 :=
    toNat_mul64 (Nat.lt_of_le_of_lt (Nat.mul_le_mul_right _ hminutes) (by decide))
  have hbound : (minutes * 60).toNat ≤ 65535 * 60 := by
    rw [hseconds]
    exact Nat.mul_le_mul_right _ hminutes
  rw [ofMinutes64, toNat_ofSeconds64 hbound, hseconds, ofMinutes]

namespace Config

open Engine

variable {config : Config} {wait : Duration}

/-- The greatest of the windows and delays. -/
def longestWait (config : Config) : Duration :=
  (waits config).max?.getD 0

/-- The windows and delays as they are computed in 64 bits. -/
def waits64 (config : Config) : List UInt64 :=
  [Duration.ofMinutes64 config.recoveryMinutes.toUInt64,
    Duration.ofMinutes64 config.identificationMinutes.toUInt64,
    Duration.ofMinutes64 config.dfuMinutes.toUInt64,
    Duration.ofMinutes64 config.provisioningMinutes.toUInt64,
    Duration.ofSeconds64 config.mismatchSeconds.toUInt64]

theorem toNat_waits64 (config : Config) : config.waits64.map UInt64.toNat = waits config := by
  have hminutes : ∀ minutes : UInt16,
      (Duration.ofMinutes64 minutes.toUInt64).toNat = Duration.ofMinutes minutes.toNat :=
    fun minutes ↦ Duration.toNat_ofMinutes64 (Nat.le_of_lt_succ minutes.toNat_lt)
  have hseconds : ∀ seconds : UInt16,
      (Duration.ofSeconds64 seconds.toUInt64).toNat = Duration.ofSeconds seconds.toNat :=
    fun seconds ↦ Duration.toNat_ofSeconds64
      (Nat.le_trans (Nat.le_of_lt_succ seconds.toNat_lt) (by decide))
  simp only [waits64, List.map_cons, List.map_nil, hminutes, hseconds]
  rfl

theorem ofMinutes_le (minutes : UInt16) : Duration.ofMinutes minutes.toNat ≤ 65535 * 60 * 1000000 :=
  Nat.mul_le_mul_right _ (Nat.mul_le_mul_right _ (Nat.le_of_lt_succ minutes.toNat_lt))

theorem ofSeconds_le (seconds : UInt16) :
    Duration.ofSeconds seconds.toNat ≤ 65535 * 60 * 1000000 :=
  Nat.mul_le_mul_right _ (Nat.le_trans (Nat.le_of_lt_succ seconds.toNat_lt) (by decide))

theorem wait_le (hwait : wait ∈ waits config) : wait ≤ 65535 * 60 * 1000000 := by
  simp only [waits, List.mem_cons, List.not_mem_nil, or_false] at hwait
  obtain rfl | rfl | rfl | rfl | rfl := hwait
  · exact ofMinutes_le _
  · exact ofMinutes_le _
  · exact ofMinutes_le _
  · exact ofMinutes_le _
  · exact ofSeconds_le _

theorem max?_waits (config : Config) : (waits config).max? = some config.longestWait := by
  -- `rfl` would multiply the windows out
  cases hmax : (waits config).max? with
  | none => cases List.max?_eq_none_iff.mp hmax
  | some longest => rw [longestWait, hmax, Option.getD_some]

theorem longestWait_mem (config : Config) : config.longestWait ∈ waits config :=
  List.max?_mem config.max?_waits

theorem le_longestWait (hwait : wait ∈ waits config) : wait ≤ config.longestWait :=
  (List.max?_eq_some_iff.mp config.max?_waits).2 wait hwait

theorem longestWait_le (config : Config) : config.longestWait ≤ 65535 * 60 * 1000000 :=
  wait_le config.longestWait_mem

/-- Where the longest wait still fits, they all do. -/
theorem room_of_longestWait {now : Instant} (hroom : now + config.longestWait < Instant.limit)
    (hwait : wait ∈ waits config) : now + wait < Instant.limit :=
  Nat.lt_of_le_of_lt (Nat.add_le_add_left (le_longestWait hwait) now) hroom

/-- The later of two instants leaves room if both do. -/
theorem room_max {first second : Instant} (hfirst : first + config.longestWait < Instant.limit)
    (hsecond : second + config.longestWait < Instant.limit) :
    max first second + config.longestWait < Instant.limit := by
  rcases Nat.le_total first second with hle | hle
  · rw [Nat.max_eq_right hle]
    exact hsecond
  · rw [Nat.max_eq_left hle]
    exact hfirst

end Config

/-! ### Values that stand -/

section Sourced

variable {ι ν : Type} {read : ι → Option ν} {sets : ι → ν → Prop} {history : List ι} {item : ι}
  {left after : Option ν} {value : ν}

/-- A value goes back to an item of a history that did not find it but set it, and every item since
has found it. -/
def StandsSince (read : ι → Option ν) (sets : ι → ν → Prop) (history : List ι) (value : ν) : Prop :=
  ∃ earlier setter later, history = earlier ++ setter :: later ∧ read setter ≠ some value ∧
    sets setter value ∧ ∀ other ∈ later, read other = some value

/-- The value that each item of a history found, and the one that the last has left, goes back to an
earlier item that set it. -/
structure Sourced (read : ι → Option ν) (sets : ι → ν → Prop) (history : List ι)
    (left : Option ν) : Prop where
  found : ∀ earlier item, earlier ++ [item] <+: history →
    ∀ value, read item = some value → StandsSince read sets earlier value
  left : ∀ value, left = some value → StandsSince read sets history value

theorem sourced_nil : Sourced read sets [] none where
  found earlier item hprefix := by simp at hprefix
  left value hvalue := by cases hvalue

/-- A value may be lost between two items. -/
theorem Sourced.lose (hsourced : Sourced read sets history left)
    (hafter : ∀ value, after = some value → left = some value) :
    Sourced read sets history after where
  found := hsourced.found
  left value hvalue := hsourced.left value (hafter value hvalue)

theorem StandsSince.snoc (hstands : StandsSince read sets history value)
    (hread : read item = some value) : StandsSince read sets (history ++ [item]) value := by
  obtain ⟨earlier, setter, later, rfl, hnew, hsets, hlater⟩ := hstands
  refine ⟨earlier, setter, later ++ [item], by simp, hnew, hsets, ?_⟩
  rw [List.forall_mem_append, List.forall_mem_singleton]
  exact ⟨hlater, hread⟩

/-- An item that keeps the value it found, loses it or sets another. -/
theorem Sourced.snoc (hsourced : Sourced read sets history (read item))
    (hafter : ∀ value, after = some value → read item = some value ∨ sets item value) :
    Sourced read sets (history ++ [item]) after where
  found earlier other hprefix := by
    obtain hlast | hearlier := List.prefix_concat_iff.mp hprefix
    · obtain ⟨rfl, hother⟩ := List.append_inj' hlast rfl
      cases hother
      exact hsourced.left
    · exact hsourced.found earlier other hearlier
  left value hvalue := by
    -- an item that sets the value it found only carries it on
    by_cases hread : read item = some value
    · exact (hsourced.left value hread).snoc hread
    · exact ⟨history, item, [], rfl, hread, (hafter value hvalue).resolve_left hread,
        List.forall_mem_nil _⟩

end Sourced

/-! ### Timers -/

/-- The timer that an event may arm, and for how long. -/
def Event.arms? (config : Config) : Event → Option (Timer × Duration)
  | .requested request => some (request.mode.timer, request.mode.window config)
  | .commandReceived command => if command.isUpdate then some (.dfu, config.dfuWindow) else none
  | .provisioningChanged _ => some (.factoryReset, config.mismatchDelay)
  | .accountKeyWritten => some (.factoryReset, config.provisioningLimit)
  | _ => none

theorem Event.wait_mem_waits {config : Config} {timer : Timer} {event : Event} {wait : Duration}
    (harms : event.arms? config = some (timer, wait)) : wait ∈ Engine.waits config := by
  cases event with
  | requested request =>
    cases harms
    exact Engine.window_mem_waits config _
  | commandReceived command =>
    obtain ⟨-, -, rfl⟩ : command.isUpdate = true ∧ Timer.dfu = timer ∧ config.dfuWindow = wait := by
      simpa [arms?] using harms
    simp [Engine.waits]
  | provisioningChanged provisioned =>
    cases harms
    simp [Engine.waits]
  | accountKeyWritten =>
    cases harms
    simp [Engine.waits]
  | _ => cases harms

/-- An event that opens the window of a mode is one that may arm the mode's timer for it. -/
theorem Handling.arms_of_opens (config : Config) {mode : Mode} {handling : Handling}
    (hopens : handling.opens mode = true) :
    handling.event.arms? config = some (mode.timer, mode.window config) := by
  obtain ⟨memory, event, outcome⟩ := handling
  cases event with
  | requested request =>
    cases outcome with
    | ok _ =>
      simp only [opens, Bool.and_eq_true, decide_eq_true_eq] at hopens
      simp [Event.arms?, hopens.1]
    | error reason => cases hopens
  | commandReceived command =>
    simp only [opens, Bool.and_eq_true, decide_eq_true_eq] at hopens
    obtain ⟨⟨rfl, hupdate⟩, -⟩ := hopens
    simp [Event.arms?, hupdate, Mode.timer, Mode.window]
  | _ => cases hopens

/-- The handling arms a timer: the deadline is the exact sum of the clock that it found and the wait
that its event calls for, and lies before the end of the clock. -/
def Handling.Arms (config : Config) (timer : Timer) (handling : Handling) (reached : Instant) :
    Prop :=
  ∃ wait, handling.event.arms? config = some (timer, wait) ∧
    reached = handling.memory.timers.now + wait ∧ reached < Instant.limit

section Effects

variable {config : Config} {before after : Memory} {calls : List Call}

open Engine

/-- The handling of an event leaves a deadline as it was, disarms the timer, or arms it for the wait
that the event calls for. -/
theorem Engine.Effect.deadline {event : Event} {outcome : Except HandlingError Unit}
    (heffect : Effect config before event calls (outcome.mapError .failed) after) (timer : Timer) :
    after.timers.deadline timer = before.timers.deadline timer ∨
      after.timers.deadline timer = none ∨
      ∃ wait, event.arms? config = some (timer, wait) ∧
        after.timers.deadline timer = some (before.timers.now + wait) := by
  induction timer using Timer.mode_cases with
  | mode mode =>
    have hdeadline : after.timers.deadline mode.timer = _ :=
      congrArg Prod.snd (heffect.window mode)
    rw [hdeadline]
    cases hopens : Handling.opens mode ⟨before, event, outcome⟩ with
    | true =>
      rw [Handling.window_of_opens config hopens]
      exact .inr (.inr ⟨_, Handling.arms_of_opens config hopens, rfl⟩)
    | false =>
      obtain hnone | hsame := Handling.deadline_of_not_opens config hopens
      · exact .inr (.inl hnone)
      · exact .inl hsame
  | factoryReset =>
    have hdeadline : after.timers.deadline .factoryReset = after.reset.2 := rfl
    rw [hdeadline]
    cases event with
    | provisioningChanged provisioned =>
      rw [Provisioning.Reported.reset heffect]
      split
      · exact .inr (.inr ⟨_, rfl, rfl⟩)
      · split
        · exact .inr (.inl rfl)
        · exact .inl rfl
    | accountKeyWritten =>
      rw [Provisioning.KeyWritten.reset heffect]
      split
      · exact .inr (.inr ⟨_, rfl, rfl⟩)
      · exact .inl rfl
    | timerExpired timer => exact .inl (congrArg Prod.snd heffect.reset_timerExpired.1)
    | _ =>
      rw [heffect.reset_other nofun nofun nofun]
      exact .inl rfl

/-- The deadlines that the handlings found, and those in the memory left, go back to a handling that
armed their timer. -/
def TimersExact (config : Config) (handlings : List Handling) (memory : Memory) : Prop :=
  ∀ timer, Sourced (fun handling ↦ handling.memory.timers.deadline timer)
    (fun handling ↦ handling.Arms config timer) handlings (memory.timers.deadline timer)

/-- Moving the timers to the present arms nothing. -/
theorem TimersExact.advance {handlings : List Handling} {memory : Memory}
    (hexact : TimersExact config handlings memory) (now : Instant) :
    TimersExact config handlings { memory with timers := (memory.timers.advance now).2 } := by
  refine fun timer ↦ (hexact timer).lose fun reached hreached ↦ ?_
  dsimp only at hreached
  rw [Timers.deadline_advance, Option.filter_eq_some_iff] at hreached
  exact hreached.1

theorem TimersExact.effect {handlings : List Handling} {event : Event}
    {outcome : Except HandlingError Unit} (hexact : TimersExact config handlings before)
    (hroom : before.timers.now + config.longestWait < Instant.limit)
    (heffect : Effect config before event calls (outcome.mapError .failed) after) :
    TimersExact config (handlings ++ [⟨before, event, outcome⟩]) after := by
  refine fun timer ↦ (hexact timer).snoc fun reached hreached ↦ ?_
  obtain hsame | hnone | ⟨wait, hcalled, harmed⟩ := heffect.deadline timer
  · exact .inl (hsame.symm.trans hreached)
  · cases hnone.symm.trans hreached
  · cases harmed.symm.trans hreached
    have hwait := Config.room_of_longestWait hroom (Event.wait_mem_waits hcalled)
    exact .inr ⟨wait, hcalled, rfl, hwait⟩

theorem TimersExact.deliveries {earlier handlings : List Handling} {events : List Event}
    (hdeliveries : Deliveries config before events handlings calls after)
    (hexact : TimersExact config earlier before)
    (hroom : before.timers.now + config.longestWait < Instant.limit) :
    TimersExact config (earlier ++ handlings) after := by
  induction hdeliveries generalizing earlier with
  | nil => simpa using hexact
  | cons heffect hrest ih =>
    have hlater := ih (hexact.effect hroom heffect) (by rwa [heffect.now])
    simpa using hlater

end Effects

/-! ### Read windows -/

/-- Calls keep the closing instant of a window, or set it by opening the window. -/
theorem ReadWindows.closing_afterCalls {windows : ReadWindows} {calls : List Call} {mode : ReadMode}
    {closing : Instant} (hclosing : (windows.afterCalls calls).closing mode = some closing) :
    windows.closing mode = some closing ∨
      .openWindow mode (.ok ()) ∈ calls ∧ closing = windows.now + windows.length mode := by
  induction calls generalizing windows with
  | nil => exact .inl hclosing
  | cons call calls ih =>
    obtain hkept | ⟨hopened, hsum⟩ := ih hclosing
    · unfold afterCall at hkept
      split at hkept
      · next opened =>
        rw [closing_withClosing] at hkept
        split at hkept
        · next hmode =>
          cases hkept
          subst hmode
          exact .inr ⟨List.mem_cons_self, rfl⟩
        · exact .inl hkept
      · exact .inl hkept
    · rw [now_afterCall, length_afterCall] at hsum
      exact .inr ⟨List.mem_cons_of_mem _ hopened, hsum⟩

/-- Where every window has room to open, each opening succeeds. -/
theorem Peripherals.answer_openWindow {parts after : Peripherals} {mode : ReadMode}
    {answer : Except (Stop DeviceError) Unit}
    (hobeys : Device.Obeys parts (.openWindow mode answer) after)
    (hroom : parts.windows.now + parts.windows.length mode < Instant.limit) : answer = .ok () := by
  generalize hcall : Call.openWindow mode answer = call at hobeys
  cases hobeys with
  | openWindow opened =>
    cases hcall
    show ((ReadWindows.enter mode).run parts.windows).value.1.mapError Stop.clockOverflow = .ok ()
    rw [ReadWindows.value_enter, if_pos hroom]
    rfl
  | _ => cases hcall

theorem Peripherals.answers_openWindow {parts after : Peripherals} {calls : List Call}
    (hobeys : Device.ObeysAll parts calls after)
    (hroom : ∀ mode, parts.windows.now + parts.windows.length mode < Instant.limit) :
    ∀ mode answer, .openWindow mode answer ∈ calls → answer = .ok () := by
  induction hobeys with
  | nil => exact fun mode answer hnone ↦ absurd hnone List.not_mem_nil
  | cons hfirst hrest ih =>
    intro mode answer hmem
    obtain rfl | hlater := List.mem_cons.mp hmem
    · exact answer_openWindow hfirst (hroom mode)
    · refine ih (fun other ↦ ?_) mode answer hlater
      rw [windows_obeys hfirst, ReadWindows.now_afterCall, ReadWindows.length_afterCall]
      exact hroom other

namespace Controller

open Engine

/-! ### Operations -/

/-- What can happen to a controller that directs its own peripherals: an event is posted or handled
at once, a pass is run, for an event taken from the queue if there is one, the read windows are
moved to an instant, or the queue and the peripherals, but not the windows, change by themselves. -/
inductive Operation where
  | post (event : Event)
  | handle (event : Event)
  | pass (now : Instant) (woken : Option Event)
  | advanceWindows (now : Instant)
  | outside (change : EventQueue × Peripherals → EventQueue × Peripherals)

/-- The instant that an operation tells the controller. -/
def Operation.instant? : Operation → Option Instant
  | .pass now _ => some now
  | .advanceWindows now => some now
  | _ => none

/-- The timers moved to the present, if the operation moves them. -/
def Operation.moveTimers (timers : Timers) : Operation → Timers
  | .pass now _ => (timers.advance now).2
  | _ => timers

/-- The windows moved to the present, if the operation moves them. -/
def Operation.moveWindows (windows : ReadWindows) : Operation → ReadWindows
  | .advanceWindows now => windows.movedTo now
  | _ => windows

def operate : Operation → Pass Peripherals Unit
  | .post event => do
    let _ ← onQueue (EventQueue.post event)
  | .handle event => do
    let _ ← handle event
  | .pass now woken => do
    let _ ← run now woken
  | .advanceWindows now => advanceWindows now
  | .outside change =>
    modify fun controller ↦
      let (queue, device) := change (controller.queue, controller.tag.device)
      { controller with queue, tag := { controller.tag with device } }
        |>.withWindows controller.windows

/-- What an operation does: some events are handled, from the memory it found with its timers moved,
and their calls act on the windows. No operation both makes calls and moves the windows. -/
structure Operated (before : Controller Peripherals) (operation : Operation)
    (handlings : List Handling) (calls : List Call) (after : Controller Peripherals) : Prop where
  deliveries : ∃ events, Deliveries before.config
    { before.tag.toMemory with timers := operation.moveTimers before.tag.timers } events handlings
    calls after.tag.toMemory
  windows : after.windows = operation.moveWindows (before.windows.afterCalls calls)
  config : after.config = before.config

@[simp] theorem length_moveWindows (operation : Operation) (windows : ReadWindows)
    (mode : ReadMode) : (operation.moveWindows windows).length mode = windows.length mode := by
  cases operation with
  | advanceWindows now => exact ReadWindows.length_movedTo windows now mode
  | _ => rfl

/-- Moving the windows only closes some. -/
theorem closing_of_moveWindows {operation : Operation} {windows : ReadWindows} {mode : ReadMode}
    {closing : Instant} (hclosing : (operation.moveWindows windows).closing mode = some closing) :
    windows.closing mode = some closing := by
  cases operation with
  | advanceWindows now =>
    have hfiltered : (windows.closing mode).filter (max windows.now now < ·) = some closing := by
      rw [← ReadWindows.closing_movedTo]
      exact hclosing
    exact (Option.filter_eq_some_iff.mp hfiltered).1
  | _ => exact hclosing

section Operate

variable {operation : Operation} {before after : Controller Peripherals} {trace : List Entry}

theorem operate_eq_ok (hrun : (operate operation).run before = ⟨.ok (), after, trace⟩) :
    Operated before operation (Trace.handlings trace) (Trace.calls trace) after := by
  cases operation with
  | post event =>
    obtain ⟨_, _, _, _, hpost, hend, rfl⟩ := Act.run_bind_eq_ok.mp hrun
    cases hend
    cases hpost
    rw [List.append_nil, Trace.handlings_lines, Trace.calls_lines]
    exact ⟨⟨[], .nil⟩, rfl, rfl⟩
  | handle event =>
    obtain ⟨_, _, _, _, hhandle, hend, rfl⟩ := Act.run_bind_eq_ok.mp hrun
    cases hend
    have hhandled := handle_eq_ok hhandle
    have hobeys := directs_handle.obeysAll hhandle
    rw [List.append_nil]
    exact ⟨⟨_, hhandled.deliveries⟩, Peripherals.windows_obeysAll hobeys, hhandled.config⟩
  | pass now woken =>
    obtain ⟨_, _, _, _, hpass, hend, rfl⟩ := Act.run_bind_eq_ok.mp hrun
    cases hend
    have hpassed := run_eq_ok hpass
    have hobeys := directs_run.obeysAll hpass
    rw [List.append_nil]
    refine ⟨?_, Peripherals.windows_obeysAll hobeys, hpassed.config⟩
    obtain ⟨_, _, _, _, _, hexpiries, hothers, hhandlings, hcalls⟩ := hpassed.deliveries
    rw [hhandlings, hcalls]
    exact ⟨_, hexpiries.append hothers⟩
  | advanceWindows now =>
    obtain ⟨_, _, hcalls, hhandlings, -, -, rfl⟩ := advanceWindows_eq_ok hrun
    rw [hcalls, hhandlings]
    exact ⟨⟨[], .nil⟩, rfl, rfl⟩
  | outside change =>
    cases hrun
    exact ⟨⟨[], .nil⟩, rfl, rfl⟩

/-- An operation ends early only where a deadline lies past the last instant. -/
theorem operate_eq_error {overflow : ClockOverflow}
    (hrun : (operate operation).run before = ⟨.error overflow, after, trace⟩) :
    OutOfClock before.config
        { before.tag.toMemory with timers := operation.moveTimers before.tag.timers }
        (Trace.calls trace) ∧
      Device.ObeysAll before.tag.device (Trace.calls trace) after.tag.device := by
  cases operation with
  | handle event =>
    obtain hhandle | ⟨_, _, _, _, _, hend, rfl⟩ := Act.run_bind_eq_error.mp hrun
    · exact ⟨(handle_eq_error hhandle).outOfClock, directs_handle.obeysAll hhandle⟩
    · cases hend
  | pass now woken =>
    obtain hpass | ⟨_, _, _, _, _, hend, rfl⟩ := Act.run_bind_eq_error.mp hrun
    · exact ⟨run_eq_error hpass, directs_run.obeysAll hpass⟩
    · cases hend
  | _ => cases hrun

end Operate

/-! ### Controllers that are in time -/

/-- A controller has its configuration, and every deadline that it may compute fits in the clock. -/
structure InTime (config : Config) (controller : Controller Peripherals) : Prop where
  configured : controller.config = config
  timers : controller.tag.timers.now + config.longestWait < Instant.limit
  windows : controller.windows.now + config.longestWait < Instant.limit
  lengths : ∀ mode, controller.windows.length mode = mode.window config

section InTime

variable {config : Config} {operation : Operation} {before after : Controller Peripherals}

theorem inTime_powerOn {start opened : Instant}
    (hstart : start + config.longestWait < Instant.limit)
    (hopened : opened + config.longestWait < Instant.limit) :
    InTime config (powerOn config start (Peripherals.create config opened)).value where
  configured := rfl
  timers := hstart
  windows := hopened
  lengths mode := by cases mode <;> rfl

section Room

variable (hinstant : ∀ now ∈ operation.instant?, now + config.longestWait < Instant.limit)

include hinstant

theorem room_moveTimers {timers : Timers}
    (hroom : timers.now + config.longestWait < Instant.limit) :
    (operation.moveTimers timers).now + config.longestWait < Instant.limit := by
  cases operation with
  | pass now woken => exact Config.room_max hroom (hinstant now rfl)
  | _ => exact hroom

theorem room_moveWindows {windows : ReadWindows}
    (hroom : windows.now + config.longestWait < Instant.limit) :
    (operation.moveWindows windows).now + config.longestWait < Instant.limit := by
  cases operation with
  | advanceWindows now => exact Config.room_max hroom (hinstant now rfl)
  | _ => exact hroom

theorem InTime.operated {handlings : List Handling} {calls : List Call}
    (htime : InTime config before) (hoperated : Operated before operation handlings calls after) :
    InTime config after where
  configured := hoperated.config.trans htime.configured
  timers := by
    obtain ⟨events, hdeliveries⟩ := hoperated.deliveries
    rw [hdeliveries.now]
    exact room_moveTimers hinstant htime.timers
  windows := by
    rw [hoperated.windows]
    exact room_moveWindows hinstant (by simpa using htime.windows)
  lengths mode := by
    rw [hoperated.windows, length_moveWindows, ReadWindows.length_afterCalls, htime.lengths]

/-- A controller that is in time completes every operation that keeps it so. -/
theorem InTime.completes (htime : InTime config before) (overflow : ClockOverflow) :
    ((operate operation).run before).result ≠ .error overflow := by
  intro hresult
  rcases hrun : (operate operation).run before with ⟨result, after, trace⟩
  rw [hrun] at hresult
  obtain rfl : result = .error overflow := hresult
  obtain ⟨hlate, hobeys⟩ := operate_eq_error hrun
  rw [htime.configured] at hlate
  obtain ⟨mode, _, hmem⟩ | ⟨wait, hwait, hlimit⟩ := hlate
  · have hopened : ∀ mode, before.windows.now + before.windows.length mode < Instant.limit := by
      intro mode
      rw [htime.lengths]
      exact Config.room_of_longestWait htime.windows (window_mem_waits config _)
    cases Peripherals.answers_openWindow hobeys hopened _ _ hmem
  · have hroom := Config.room_of_longestWait (room_moveTimers hinstant htime.timers) hwait
    exact absurd hroom (Nat.not_lt.mpr hlimit)

end Room

end InTime

/-! ### Whole runs -/

/-- The step opens a read window: its closing instant is the exact sum of the clock of the windows
and the length of the mode's window, and lies before the end of the clock. -/
def Opens (config : Config) (mode : ReadMode) (step : Step (Controller Peripherals) Operation)
    (closing : Instant) : Prop :=
  .openWindow mode (.ok ()) ∈ Trace.calls step.trace ∧
    closing = step.before.windows.now + mode.window config ∧ closing < Instant.limit

/-- Every deadline of a run is an exact sum that stands since it was computed: those of the timers
as each handling found them, those of the read windows as each step found them, and those left. -/
structure DeadlinesExact (config : Config) (run : Run (Controller Peripherals) Operation) :
    Prop where
  timers : TimersExact config (Trace.handlings run.trace) run.state.tag.toMemory
  windows : ∀ mode, Sourced (fun step ↦ step.before.windows.closing mode) (Opens config mode)
    run.steps (run.state.windows.closing mode)

section Runs

variable {config : Config} {operation : Operation} {after : Controller Peripherals}
  {trace : List Entry} {run : Run (Controller Peripherals) Operation}

theorem deadlinesExact_powerOn (config : Config) (start opened : Instant) :
    DeadlinesExact config
      { state := (powerOn config start (Peripherals.create config opened)).value } where
  timers timer := by cases timer <;> exact sourced_nil
  windows mode := by cases mode <;> exact sourced_nil

theorem DeadlinesExact.append (hexact : DeadlinesExact config run) (htime : InTime config run.state)
    (hinstant : ∀ now ∈ operation.instant?, now + config.longestWait < Instant.limit)
    (hrun : (operate operation).run run.state = ⟨.ok (), after, trace⟩) :
    DeadlinesExact config (run.append operation trace after) := by
  have hoperated := operate_eq_ok hrun
  constructor
  · obtain ⟨events, hdeliveries⟩ := hoperated.deliveries
    rw [htime.configured] at hdeliveries
    have hmoved : TimersExact config (Trace.handlings run.trace)
        { run.state.tag.toMemory with
          timers := operation.moveTimers run.state.tag.timers } := by
      cases operation with
      | pass now woken => exact hexact.timers.advance now
      | _ => exact hexact.timers
    rw [Run.trace_append, Trace.handlings_append]
    exact hmoved.deliveries hdeliveries (room_moveTimers hinstant htime.timers)
  · refine fun mode ↦ (hexact.windows mode).snoc fun closing hclosing ↦ ?_
    rw [Run.state_append, hoperated.windows] at hclosing
    obtain hkept | ⟨hopened, hsum⟩ :=
      ReadWindows.closing_afterCalls (closing_of_moveWindows hclosing)
    · exact .inl hkept
    · rw [htime.lengths] at hsum
      refine .inr ⟨hopened, hsum, ?_⟩
      rw [hsum]
      exact Config.room_of_longestWait htime.windows (window_mem_waits config _)

theorem inTime_of_follow {start : Controller Peripherals} {operations : List Operation}
    (hfollow : Run.follow operate start operations = .ok run) (hstart : InTime config start)
    (hinstants : ∀ operation ∈ operations, ∀ now ∈ operation.instant?,
      now + config.longestWait < Instant.limit) : InTime config run.state := by
  refine Run.follow_invariant hfollow hstart ?_ _ run.state_mem_states
  intro before operation trace after hbefore hmem hrun
  exact hbefore.operated (hinstants operation hmem) (operate_eq_ok hrun)

/-- The longest of the windows and delays is at most 65535 minutes, and 64 bits compute it exactly.
As long as no instant is closer than that to the end of the clock, every run from power-on goes to
its end, and each deadline that it leaves is an exact sum. The controller and its read windows may
be started at different instants. -/
theorem deadlines_exact_within_clock (config : Config) :
    (config.longestWait ∈ waits config ∧ ∀ wait ∈ waits config, wait ≤ config.longestWait) ∧
      config.longestWait ≤ 65535 * 60 * 1000000 ∧
      config.waits64.map UInt64.toNat = waits config ∧
      ∀ (start opened : Instant) (operations : List Operation),
        start + config.longestWait < Instant.limit → opened + config.longestWait < Instant.limit →
        (∀ operation ∈ operations, ∀ now ∈ operation.instant?,
          now + config.longestWait < Instant.limit) →
        ∃ run, Run.follow operate (powerOn config start (Peripherals.create config opened)).value
          operations = .ok run ∧ DeadlinesExact config run := by
  refine ⟨⟨config.longestWait_mem, fun _ ↦ Config.le_longestWait⟩, config.longestWait_le,
    config.toNat_waits64, ?_⟩
  intro start opened operations hstart hopened hinstants
  have hpower := inTime_powerOn hstart hopened
  cases hfollow : Run.follow operate (powerOn config start (Peripherals.create config opened)).value
      operations with
  | error overflow =>
    -- up to the operation that ends early the controller has been in time
    obtain ⟨earlier, operation, later, run, rfl, hrun, hresult⟩ := Run.follow_eq_error hfollow
    rw [List.forall_mem_append, List.forall_mem_cons] at hinstants
    have htime := inTime_of_follow hrun hpower hinstants.1
    exact absurd hresult (htime.completes hinstants.2.1 overflow)
  | ok run =>
    refine ⟨run, rfl, (Run.follow_induction hfollow
      (motive := fun run ↦ InTime config run.state ∧ DeadlinesExact config run)
      ⟨hpower, deadlinesExact_powerOn config start opened⟩ ?_).2⟩
    rintro earlier operation trace after ⟨htime, hexact⟩ hmem hrun
    have hinstant := hinstants operation hmem
    exact ⟨htime.operated hinstant (operate_eq_ok hrun), hexact.append htime hinstant hrun⟩

/-- Recovery mode with the longest window there is, asked for at the last instant that leaves room
for it: its timer and its read window end with the clock. -/
theorem longest_window_ends_with_clock :
    ∃ run, Run.follow operate
        (powerOn { recoveryMinutes := 65535 } 18446740141609551615
          (Peripherals.create { recoveryMinutes := 65535 } 0)).value
        [.handle (.provisioningChanged true), .advanceWindows 18446740141609551615,
          .post (.requested .recovery), .pass 18446740141609551615 none] = .ok run ∧
      run.state.tag.timers.recovery = some 18446744073709551615 ∧
      run.state.windows.recovery = some 18446744073709551615 ∧
      run.state.tag.timers.factoryReset = some 18446740141612551615 ∧
      DeadlinesExact { recoveryMinutes := 65535 } run := by
  obtain ⟨run, hrun, hrecovery, hwindow, hreset⟩ : ∃ run, Run.follow operate
        (powerOn { recoveryMinutes := 65535 } 18446740141609551615
          (Peripherals.create { recoveryMinutes := 65535 } 0)).value
        [.handle (.provisioningChanged true), .advanceWindows 18446740141609551615,
          .post (.requested .recovery), .pass 18446740141609551615 none] = .ok run ∧
      run.state.tag.timers.recovery = some 18446744073709551615 ∧
      run.state.windows.recovery = some 18446744073709551615 ∧
      run.state.tag.timers.factoryReset = some 18446740141612551615 :=
    ⟨_, rfl, by decide +kernel, by decide +kernel, by decide +kernel⟩
  obtain ⟨-, -, -, hruns⟩ := deadlines_exact_within_clock { recoveryMinutes := 65535 }
  obtain ⟨same, hsame, hexact⟩ := hruns 18446740141609551615 0
    [.handle (.provisioningChanged true), .advanceWindows 18446740141609551615,
      .post (.requested .recovery), .pass 18446740141609551615 none]
    (by decide +kernel) (by decide +kernel) (by decide +kernel)
  obtain rfl : run = same := Except.ok.inj (hrun.symm.trans hsame)
  exact ⟨run, hrun, hrecovery, hwindow, hreset, hexact⟩

/-- One microsecond later there is no room for that window. -/
example : (Run.follow operate
    (powerOn { recoveryMinutes := 65535 } 18446740141609551616
      (Peripherals.create { recoveryMinutes := 65535 } 0)).value
    [.handle (.provisioningChanged true), .handle (.requested .recovery)]).toBool = false := rfl

end Runs

end Controller

end TagControl
