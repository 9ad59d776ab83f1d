import Mathlib.Order.Bounds.Basic
import TagControl.Bench
import TagControl.Proofs.Config
import TagControl.Proofs.Delivery
import TagControl.Proofs.OpenWindows
import TagControl.Proofs.PendingReset
/-!
The instant at which a controller wants to be run again. In a run whose expiries come from the
timers alone, a timer is armed exactly while its mode or the pending reset waits for it, and for an
instant ahead of the clock (`Memory.Punctual`): a valid configuration has no empty window or delay,
and the clock disarms the timers that it reaches. So the answer of a pass is the earliest instant at
which there is something to do (`Controller.Wakes`).
-/

set_option autoImplicit false

namespace TagControl

/-! ### The earliest deadline -/

namespace Timers

theorem next_eq_none {timers : Timers} :
    timers.next = none ↔ ∀ timer, timers.isArmed timer = false := by
  simp [next, isArmed, List.min?_eq_none_iff, List.filterMap_eq_nil_iff]

theorem next_eq_some {timers : Timers} {wake : Instant} : timers.next = some wake ↔
    IsLeast {reached | ∃ timer, timers.deadline timer = some reached} wake := by
  simp only [next, List.min?_eq_some_iff, List.mem_filterMap, Timer.mem_all, true_and]
  rfl

/-- A clock that stays behind every deadline disarms no timer. -/
theorem advance_of_ahead {timers : Timers} {now : Instant}
    (hahead : ∀ timer reached, timers.deadline timer = some reached →
      max timers.now now < reached) : timers.advance now = ([], timers.clockAt now) := by
  have hnone : ∀ timer, timer ∉ (timers.advance now).1 := by
    intro timer hexpired
    obtain ⟨reached, hdeadline, hle⟩ := mem_advance.mp hexpired
    exact Nat.not_le.mpr (hahead timer reached hdeadline) hle
  refine Prod.ext (List.eq_nil_iff_forall_not_mem.mpr hnone) (ext rfl fun timer ↦ ?_)
  rw [deadline_advance_eq_ite, if_neg (hnone timer), deadline_clockAt]

end Timers

/-! ### Alarms -/

/-- Whether something waits for a timer: its mode, or the pending reset. -/
def Ledger.awaits (ledger : Ledger) (timer : Timer) : Bool :=
  match Mode.ofTimer timer with
  | some mode => ledger.isActive mode
  | none => ledger.pending.isSome

@[simp] theorem Ledger.awaits_timer (ledger : Ledger) (mode : Mode) :
    ledger.awaits mode.timer = ledger.isActive mode := by
  cases mode <;> rfl

theorem Ledger.awaits_eq_false {ledger : Ledger} : (∀ timer, ledger.awaits timer = false) ↔
    (∀ mode, ledger.isActive mode = false) ∧ ledger.pending = none := by
  constructor
  · intro hnone
    have hpending : ledger.pending.isSome = false := hnone .factoryReset
    refine ⟨fun mode ↦ ?_, by simpa using hpending⟩
    rw [← ledger.awaits_timer mode]
    exact hnone mode.timer
  · rintro ⟨hinactive, hpending⟩ timer
    cases timer using Timer.mode_cases with
    | factoryReset => simp [awaits, Mode.ofTimer, hpending]
    | mode mode => rw [awaits_timer, hinactive]

namespace Memory

/-- Whether something waits for a timer, and the deadline of the timer. -/
def alarm (memory : Memory) (timer : Timer) : Bool × Option Instant :=
  (memory.ledger.awaits timer, memory.timers.deadline timer)

theorem alarm_timer (memory : Memory) (mode : Mode) :
    memory.alarm mode.timer = memory.window mode := by
  rw [alarm, Ledger.awaits_timer, window]

theorem alarm_factoryReset (memory : Memory) :
    memory.alarm .factoryReset = (memory.reset.1.isSome, memory.reset.2) := rfl

/-- A timer is armed exactly if something waits for it, and for an instant ahead of the clock. -/
structure Punctual (memory : Memory) (timer : Timer) : Prop where
  armed : memory.timers.isArmed timer = memory.ledger.awaits timer
  ahead : ∀ reached, memory.timers.deadline timer = some reached → memory.timers.now < reached

theorem punctual_of_alarm {memory : Memory} {timer : Timer} {waits : Bool}
    {deadline : Option Instant} (halarm : memory.alarm timer = (waits, deadline))
    (harmed : deadline.isSome = waits)
    (hahead : ∀ reached, deadline = some reached → memory.timers.now < reached) :
    memory.Punctual timer := by
  obtain ⟨rfl, rfl⟩ := Prod.mk.injEq .. |>.mp halarm
  exact ⟨harmed, hahead⟩

end Memory

/-- An alarm is left alone, taken back, or set for a later instant. -/
def IsTimely (now : Instant) (before after : Bool × Option Instant) : Prop :=
  after = before ∨ after = (false, none) ∨ ∃ wait, 0 < wait ∧ after = (true, some (now + wait))

namespace Engine

variable {config : Config} {before after : Memory} {calls : List Call}

theorem Effect.timely_window {event : Event} {outcome : Except HandlingError Unit}
    (hvalid : config.validate = .ok ())
    (heffect : Effect config before event calls (outcome.mapError .failed) after)
    (hgenuine : ∀ timer, event ≠ .timerExpired timer) (mode : Mode) :
    IsTimely before.timers.now (before.window mode) (after.window mode) := by
  rw [heffect.window mode]
  cases hopens : Handling.opens mode ⟨before, event, outcome⟩ with
  | true =>
    rw [Handling.window_of_opens config hopens]
    exact .inr (.inr ⟨_, Config.window_pos hvalid mode, rfl⟩)
  | false =>
    cases event with
    | timerExpired timer => exact absurd rfl (hgenuine timer)
    | readModeExited exited =>
      by_cases hmode : Mode.ofReadMode exited = mode
      · exact .inr (.inl (by simp [Handling.window, hmode]))
      · exact .inl (by simp [Handling.window, hmode])
    | _ => exact .inl (by simp [Handling.window, hopens])

theorem Effect.timely_factoryReset {event : Event} {outcome : Except HandlingError Unit}
    (hvalid : config.validate = .ok ())
    (heffect : Effect config before event calls (outcome.mapError .failed) after)
    (hgenuine : ∀ timer, event ≠ .timerExpired timer) :
    IsTimely before.timers.now (before.alarm .factoryReset) (after.alarm .factoryReset) := by
  rw [Memory.alarm_factoryReset, Memory.alarm_factoryReset]
  cases event with
  | provisioningChanged provisioned =>
    rw [Provisioning.Reported.reset heffect]
    split
    · exact .inr (.inr ⟨_, Config.mismatchDelay_pos hvalid, rfl⟩)
    · split
      · exact .inr (.inl rfl)
      · exact .inl rfl
  | accountKeyWritten =>
    rw [Provisioning.KeyWritten.reset heffect]
    split
    · exact .inr (.inr ⟨_, Config.provisioningLimit_pos hvalid, rfl⟩)
    · exact .inl rfl
  | timerExpired timer => exact absurd rfl (hgenuine timer)
  | _ =>
    rw [heffect.reset_other (by simp) (by simp) hgenuine]
    exact .inl rfl

/-- An event that is no expiry keeps every timer punctual. -/
theorem Effect.punctual {event : Event} {outcome : Except HandlingError Unit}
    (hvalid : config.validate = .ok ())
    (heffect : Effect config before event calls (outcome.mapError .failed) after)
    (hgenuine : ∀ timer, event ≠ .timerExpired timer) {timer : Timer}
    (hpunctual : before.Punctual timer) : after.Punctual timer := by
  have htimely : IsTimely before.timers.now (before.alarm timer) (after.alarm timer) := by
    cases timer using Timer.mode_cases with
    | factoryReset => exact heffect.timely_factoryReset hvalid hgenuine
    | mode mode =>
      rw [Memory.alarm_timer, Memory.alarm_timer]
      exact heffect.timely_window hvalid hgenuine mode
  have hnow := heffect.now
  obtain hkept | hended | ⟨wait, hwait, hset⟩ := htimely
  · refine Memory.punctual_of_alarm hkept hpunctual.armed ?_
    rw [hnow]
    exact hpunctual.ahead
  · exact Memory.punctual_of_alarm hended rfl nofun
  · refine Memory.punctual_of_alarm hset rfl ?_
    rw [hnow]
    rintro _ ⟨⟩
    exact Nat.lt_add_of_pos_right hwait

theorem Deliveries.punctual {events : List Event} {handlings : List Handling}
    (hvalid : config.validate = .ok ())
    (hdeliveries : Deliveries config before events handlings calls after)
    (hgenuine : ∀ timer, .timerExpired timer ∉ events) {timer : Timer}
    (hpunctual : before.Punctual timer) : after.Punctual timer := by
  refine hdeliveries.preserves (motive := fun memory ↦ memory.Punctual timer) ?_ hpunctual
  intro event hevent found left made outcome heffect hfound
  exact heffect.punctual hvalid (fun expired heq ↦ hgenuine expired (heq ▸ hevent)) hfound

/-- Handling expired timers ends what waits for them, and leaves every deadline. -/
theorem Deliveries.alarm_expired {expired : List Timer} {handlings : List Handling}
    (hdeliveries : Deliveries config before (expired.map .timerExpired) handlings calls after)
    (timer : Timer) : after.alarm timer =
      (before.ledger.awaits timer && timer ∉ expired, before.timers.deadline timer) := by
  cases timer using Timer.mode_cases with
  | mode mode =>
    rw [Memory.alarm_timer, hdeliveries.window_expired mode, Ledger.awaits_timer]
  | factoryReset =>
    rw [Memory.alarm_factoryReset, hdeliveries.reset_expired.1]
    by_cases hexpired : .factoryReset ∈ expired
    · simp [hexpired]
    · simp [hexpired, Ledger.awaits, Mode.ofTimer]

/-- Moving the clock ends what waits for the timers that it reaches and disarms them. -/
theorem Deliveries.punctual_advance {now : Instant} {handlings : List Handling}
    (hdeliveries : Deliveries config { before with timers := (before.timers.advance now).2 }
      ((before.timers.advance now).1.map .timerExpired) handlings calls after) {timer : Timer}
    (hpunctual : before.Punctual timer) : after.Punctual timer := by
  refine Memory.punctual_of_alarm (hdeliveries.alarm_expired timer) ?_ ?_
  · rw [← hpunctual.armed, Timers.deadline_advance_eq_ite]
    by_cases hexpired : timer ∈ (before.timers.advance now).1
    · simp [hexpired]
    · simp [hexpired, Timers.isArmed]
  · rw [hdeliveries.now, Timers.now_advance]
    exact fun reached ↦ Timers.lt_of_deadline_advance

end Engine

namespace Controller

open Engine

variable {σ : Type} {config : Config} {before after : Controller σ}

/-! ### Runs -/

/-- What holds between the moves of a controller: every timer is punctual, and no expiry waits in
the queue. -/
structure Attends (config : Config) (controller : Controller σ) : Prop where
  configured : controller.config = config
  punctual : ∀ timer, controller.tag.toMemory.Punctual timer
  genuine : ∀ timer, .timerExpired timer ∉ controller.queue.events

theorem attends_powerOn (config : Config) (start : Instant) (bringUp : Traced Line σ) :
    Attends config (powerOn config start bringUp).value where
  configured := rfl
  punctual timer := ⟨by cases timer <;> rfl, by cases timer <;> nofun⟩
  genuine _ := List.not_mem_nil

theorem Attends.passed {now : Instant} {woken : Option Event} {handlings : List Handling}
    {calls : List Call} (hattends : Attends config before) (hvalid : config.validate = .ok ())
    (hwoken : ∀ timer, woken ≠ some (.timerExpired timer))
    (hpassed : Passed now woken before handlings calls after) : Attends config after := by
  obtain ⟨expiries, others, _, _, middle, hexpiries, hothers, -, -⟩ := hpassed.deliveries
  rw [hattends.configured] at hexpiries hothers
  have hgenuine : ∀ timer, .timerExpired timer ∉ woken.toList ++ before.queue.events := by
    intro timer
    rw [List.mem_append, Option.mem_toList, not_or]
    exact ⟨hwoken timer, hattends.genuine timer⟩
  refine ⟨hpassed.config.trans hattends.configured, fun timer ↦ ?_, fun timer ↦ ?_⟩
  -- the expiries of the pass come from its own timers, so they keep every timer punctual as well
  · exact hothers.punctual hvalid hgenuine (hexpiries.punctual_advance (hattends.punctual timer))
  · rw [hpassed.queue]
    exact List.not_mem_nil

theorem Attends.move {move : Move σ} {handlings : List Handling} {calls : List Call}
    (hattends : Attends config before) (hvalid : config.validate = .ok ())
    (hgenuine : ∀ timer, move.brings ≠ some (.timerExpired timer))
    (hmoved : Moved before move handlings calls after) : Attends config after := by
  cases hmoved with
  | outside => exact ⟨hattends.configured, hattends.punctual, hattends.genuine⟩
  | pass hpassed => exact hattends.passed hvalid hgenuine hpassed
  | post =>
    rename_i posted
    refine ⟨hattends.configured, hattends.punctual, fun timer ↦ ?_⟩
    obtain hqueued | hlost := EventQueue.events_post before.queue posted
    · rw [hqueued, List.mem_append, List.mem_singleton, not_or]
      exact ⟨hattends.genuine timer, fun heq ↦ hgenuine timer (congrArg some heq.symm)⟩
    · rw [hlost]
      exact hattends.genuine timer

/-! ### Deadlines -/

/-- The instants for which the active modes and the pending reset wait. -/
def awaited (controller : Controller σ) : Set Instant :=
  {reached |
    (∃ mode, controller.tag.ledger.isActive mode = true ∧
      controller.tag.timers.deadline mode.timer = some reached) ∨
    (controller.tag.ledger.pending ≠ none ∧
      controller.tag.timers.deadline .factoryReset = some reached)}

/-- Nothing is armed but what an active mode or the pending reset waits for. -/
theorem Attends.awaited_eq (hattends : Attends config before) :
    before.awaited = {reached | ∃ timer, before.tag.timers.deadline timer = some reached} := by
  ext reached
  constructor
  · rintro (⟨mode, -, hdeadline⟩ | ⟨-, hdeadline⟩)
    · exact ⟨mode.timer, hdeadline⟩
    · exact ⟨.factoryReset, hdeadline⟩
  · rintro ⟨timer, hdeadline⟩
    have hawaits : before.tag.ledger.awaits timer = true := by
      rw [← (hattends.punctual timer).armed, Timers.isArmed, hdeadline, Option.isSome_some]
    cases timer using Timer.mode_cases with
    | factoryReset => exact .inr ⟨Option.ne_none_iff_isSome.mpr hawaits, hdeadline⟩
    | mode mode => exact .inl ⟨mode, by rwa [← Ledger.awaits_timer], hdeadline⟩

theorem Attends.idle_iff (hattends : Attends config before) : before.tag.timers.next = none ↔
    (∀ mode, before.tag.ledger.isActive mode = false) ∧ before.tag.ledger.pending = none := by
  rw [Timers.next_eq_none, ← Ledger.awaits_eq_false]
  exact forall_congr' fun timer ↦ by rw [← (hattends.punctual timer).armed]

/-- Before the earliest deadline the clock stays behind all of them. -/
theorem Attends.lt_deadline (hattends : Attends config before) {now : Instant}
    (hearly : ∀ wake ∈ before.tag.timers.next, now < wake) {timer : Timer} {reached : Instant}
    (hdeadline : before.tag.timers.deadline timer = some reached) :
    max before.tag.timers.now now < reached := by
  refine Nat.max_lt.mpr ⟨(hattends.punctual timer).ahead reached hdeadline, ?_⟩
  cases hnext : before.tag.timers.next with
  | none =>
    have hidle := Timers.next_eq_none.mp hnext timer
    rw [Timers.isArmed, hdeadline] at hidle
    cases hidle
  | some wake =>
    exact Nat.lt_of_lt_of_le (hearly wake hnext)
      ((Timers.next_eq_some.mp hnext).2 ⟨timer, hdeadline⟩)

/-! ### Passes and polls -/

variable [Device σ]

theorem attends_of_follow {start : Instant} {bringUp : Traced Line σ} {moves : List (Move σ)}
    {run : Run (Controller σ) (Move σ)} (hvalid : config.validate = .ok ())
    (hgenuine : ∀ move ∈ moves, ∀ timer, move.brings ≠ some (.timerExpired timer))
    (hfollow : Run.follow perform (powerOn config start bringUp).value moves = .ok run) :
    Attends config run.state := by
  refine Run.follow_invariant hfollow (attends_powerOn config start bringUp) ?_ _
    run.state_mem_states
  intro before move trace after hbefore hmove hrun
  exact hbefore.move hvalid (hgenuine move hmove) (perform_eq_ok hrun)

/-- A pass answers with the earliest deadline that it leaves. -/
theorem next_of_run {now : Instant} {woken : Option Event} {next : Option Instant}
    {trace : List Entry} (hrun : (run now woken).run before = ⟨.ok next, after, trace⟩) :
    next = after.tag.timers.next := by
  obtain ⟨_, _, _, _, _, hothers, -⟩ := Act.run_bind_eq_ok.mp hrun
  obtain ⟨_, _, _, _, _, hrest, -⟩ := Act.run_bind_eq_ok.mp hothers
  obtain ⟨_, _, _, _, _, hpublish, -⟩ := Act.run_bind_eq_ok.mp hrest
  obtain ⟨_, published, _, _, -, hend, -⟩ := Act.run_bind_eq_ok.mp hpublish
  cases hend
  rfl

/-- Moving the timers to the present never runs out of clock. -/
theorem handleExpired_total (now : Instant) (controller : Controller σ) : ∃ after trace,
    (handleExpired now).run controller =
      ⟨.ok (controller.tag.timers.advance now).1.length, after, trace⟩ := by
  have hmoved := run_expireTimers now controller
  obtain ⟨after, trace, hrun⟩ := handleAll_expired_total (controller.tag.timers.advance now).1
    ((onTag (expireTimers now)).run controller).state
  refine ⟨after, trace, Act.run_bind_eq_ok.mpr ⟨_, _, [], trace, hmoved, ?_, rfl⟩⟩
  exact Act.run_bind_eq_ok.mpr ⟨(), after, trace, [], hrun, rfl, (List.append_nil trace).symm⟩

/-- A controller may rest until an instant, or until something is posted if there is none: it has
nothing to do before, and there is something to do then. -/
structure Wakes (controller : Controller σ) (next : Option Instant) : Prop where
  armed : ∀ timer, controller.tag.timers.isArmed timer = controller.tag.ledger.awaits timer
  idle : next = none ↔ (∀ mode, controller.tag.ledger.isActive mode = false) ∧
    controller.tag.ledger.pending = none
  ahead : ∀ wake ∈ next, controller.tag.timers.now < wake
  least : ∀ wake ∈ next, IsLeast controller.awaited wake
  rests : ∀ now, (∀ wake ∈ next, now < wake) → (handleExpired now).run controller =
    ⟨.ok 0, { controller with
      tag := { controller.tag with timers := controller.tag.timers.clockAt now } }, []⟩
  wakes : ∀ wake ∈ next, ∃ expired after trace,
    (handleExpired wake).run controller = ⟨.ok expired.length, after, trace⟩ ∧ expired ≠ [] ∧
    (∀ timer, timer ∈ expired ↔ controller.tag.timers.deadline timer = some wake) ∧
    (Trace.handlings trace).map (·.event) = expired.map .timerExpired

/-- Before the earliest deadline there is nothing to do. -/
theorem Attends.rests (hattends : Attends config before) {now : Instant}
    (hearly : ∀ wake ∈ before.tag.timers.next, now < wake) :
    (handleExpired now).run before = ⟨.ok 0, { before with
      tag := { before.tag with timers := before.tag.timers.clockAt now } }, []⟩ := by
  have hadvance : before.tag.timers.advance now = ([], before.tag.timers.clockAt now) :=
    Timers.advance_of_ahead fun _ _ hdeadline ↦ hattends.lt_deadline hearly hdeadline
  have hexpire := run_expireTimers now before
  rw [hadvance] at hexpire
  exact Act.run_bind_eq_ok.mpr ⟨[], _, [], [], hexpire, rfl, rfl⟩

/-- At the earliest deadline there is something to do: the timers that were armed for it expire. -/
theorem Attends.wakes (hattends : Attends config before) {wake : Instant}
    (hwake : before.tag.timers.next = some wake) :
    ∃ expired after trace,
      (handleExpired wake).run before = ⟨.ok expired.length, after, trace⟩ ∧ expired ≠ [] ∧
      (∀ timer, timer ∈ expired ↔ before.tag.timers.deadline timer = some wake) ∧
      (Trace.handlings trace).map (·.event) = expired.map .timerExpired := by
  obtain ⟨⟨first, hfirst⟩, hleast⟩ := Timers.next_eq_some.mp hwake
  have hclock : max before.tag.timers.now wake = wake :=
    Nat.max_eq_right (Nat.le_of_lt ((hattends.punctual first).ahead wake hfirst))
  have hmem : ∀ timer, timer ∈ (before.tag.timers.advance wake).1 ↔
      before.tag.timers.deadline timer = some wake := by
    intro timer
    rw [Timers.mem_advance, hclock]
    constructor
    · rintro ⟨reached, hdeadline, hle⟩
      rw [hdeadline, Nat.le_antisymm hle (hleast ⟨timer, hdeadline⟩)]
    · exact fun hdeadline ↦ ⟨wake, hdeadline, Nat.le_refl wake⟩
  obtain ⟨after, trace, hrun⟩ := handleExpired_total wake before
  refine ⟨_, after, trace, hrun, List.ne_nil_of_mem ((hmem first).mpr hfirst), hmem, ?_⟩
  exact (handleExpired_eq_ok hrun).deliveries.map_event

theorem Attends.wakes_next (hattends : Attends config before) :
    Wakes before before.tag.timers.next where
  armed timer := (hattends.punctual timer).armed
  idle := hattends.idle_iff
  ahead wake hwake := by
    obtain ⟨⟨timer, hdeadline⟩, -⟩ := Timers.next_eq_some.mp hwake
    exact (hattends.punctual timer).ahead wake hdeadline
  least wake hwake := by
    rw [hattends.awaited_eq]
    exact Timers.next_eq_some.mp hwake
  rests _ hearly := hattends.rests hearly
  wakes _ hwake := hattends.wakes hwake

/-- If expiries come from the timers alone, then after every pass the controller may rest until the
instant that the pass answers with, and a pass that does not answer ran out of clock. -/
theorem controller_rests_until_answer (config : Config) (hvalid : config.validate = .ok ())
    (start : Instant) (bringUp : Traced Line σ) (moves : List (Move σ))
    (hgenuine : ∀ move ∈ moves, ∀ timer, move.brings ≠ some (.timerExpired timer))
    (run : Run (Controller σ) (Move σ))
    (hfollow : Run.follow perform (powerOn config start bringUp).value moves = .ok run)
    (now : Instant) (woken : Option Event) (hwoken : ∀ timer, woken ≠ some (.timerExpired timer)) :
    (∀ next after trace,
      (Controller.run now woken).run run.state = ⟨.ok next, after, trace⟩ → Wakes after next) ∧
    ∀ overflow after trace,
      (Controller.run now woken).run run.state = ⟨.error overflow, after, trace⟩ →
      OutOfClock config
        { run.state.tag.toMemory with timers := (run.state.tag.timers.advance now).2 }
        (Trace.calls trace) := by
  have hattends := attends_of_follow hvalid hgenuine hfollow
  constructor
  · intro next after trace hrun
    rw [next_of_run hrun]
    exact (hattends.passed hvalid hwoken (run_eq_ok hrun)).wakes_next
  · intro overflow after trace hrun
    rw [← hattends.configured]
    exact run_eq_error hrun

/-- Half a minute into update mode a first key is written, which brings a reset in five minutes: the
controller rests for the half minute that is left of the mode. -/
theorem controller_rests_for_update :
    ∃ run, Run.follow perform (powerOn {} 0 (pure ({} : Bench))).value
        [.post (.requested .dfu), .pass 0 none] = .ok run ∧
      ∃ after trace, (Controller.run 30000000 (some .accountKeyWritten)).run run.state =
          ⟨.ok (some 60000000), after, trace⟩ ∧
        after.tag.timers =
          { now := 30000000, dfu := some 60000000, factoryReset := some 330000000 } ∧
        Wakes after (some 60000000) := by
  obtain ⟨run, hrun, hanswer, htimers⟩ : ∃ run,
      Run.follow perform (powerOn {} 0 (pure ({} : Bench))).value
        [.post (.requested .dfu), .pass 0 none] = .ok run ∧
      ((Controller.run 30000000 (some .accountKeyWritten)).run run.state).result =
        .ok (some 60000000) ∧
      ((Controller.run 30000000 (some .accountKeyWritten)).run run.state).state.tag.timers =
        { now := 30000000, dfu := some 60000000, factoryReset := some 330000000 } :=
    ⟨_, rfl, by decide +kernel, by decide +kernel⟩
  have hvalid : ({} : Config).validate = .ok () := by rfl
  obtain ⟨hwakes, -⟩ := controller_rests_until_answer {} hvalid 0 (pure ({} : Bench)) _
    (by simp [Move.brings]) run hrun 30000000 (some .accountKeyWritten) (by simp)
  rcases hpass : (Controller.run 30000000 (some .accountKeyWritten)).run run.state with
    ⟨result, after, trace⟩
  rw [hpass] at hanswer htimers
  obtain rfl : result = .ok (some 60000000) := hanswer
  exact ⟨run, hrun, after, trace, hpass, htimers, hwakes _ after trace hpass⟩

end Controller

end TagControl
