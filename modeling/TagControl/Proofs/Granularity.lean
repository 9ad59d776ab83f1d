import TagControl.Proofs.Delivery
import TagControl.Proofs.WindowsInStep
/-!
How often the time is told makes no difference. Moved to the present in two passes or in one, a
controller over its own peripherals that has nothing queued ends in the same state
(`Controller.afterIdlePass_afterIdlePass`). The timers expire in the same order either way, and
their handling looks neither at the timers nor at the windows. What is handled in another order are
the reports of closed windows: they come after the expiries of their pass, but by then the mode has
ended with its timer, so a report only adds to the count.
-/

set_option autoImplicit false

namespace TagControl

namespace ReadWindows

/-- The windows that close when they are moved to an instant, in the order of their reports. -/
def due (windows : ReadWindows) (now : Instant) : List ReadMode :=
  [.recovery, .identification].filter fun mode ↦
    (windows.closing mode).any (· ≤ max windows.now now)

theorem mem_due {windows : ReadWindows} {now : Instant} {mode : ReadMode} :
    mode ∈ windows.due now ↔
      ∃ closing, windows.closing mode = some closing ∧ closing ≤ max windows.now now := by
  cases mode <;> simp [due, Option.any_eq_true]

/-- If there is room for its report, a window that is due is reported when it is closed. -/
theorem closeIfDue_room (mode : ReadMode) (windows : ReadWindows) (queue : EventQueue)
    (hroom : queue.size < EventQueue.capacity) :
    ∃ queued, ((closeIfDue mode).run (windows, queue)).value.2 =
        (windows.withClosing mode ((windows.closing mode).filter (windows.now < ·)), queued) ∧
      queued.events = queue.events ++
        if windows.isDue mode then [.readModeExited mode] else [] := by
  rw [value_closeIfDue, filter_closing]
  cases hdue : windows.isDue mode with
  | true =>
    have haccepts : queue.accepts (.readModeExited mode) = true := by
      rw [← Bool.not_eq_false, EventQueue.accepts_eq_false]
      exact Nat.ne_of_lt hroom
    refine ⟨_, rfl, ?_⟩
    simp [EventQueue.events_value_post, Option.filter, haccepts]
  | false =>
    simp only [Bool.false_eq_true, if_false, withClosing_closing]
    exact ⟨queue, rfl, (List.append_nil _).symm⟩

/-- With nothing queued there is room for every report. -/
theorem advance_reports (now : Instant) (windows : ReadWindows) {queue : EventQueue}
    (hempty : queue.events = []) : ∃ queued,
      ((advance now).run (windows, queue)).value.2 = (windows.movedTo now, queued) ∧
        queued.events = (windows.due now).map .readModeExited := by
  let clocked : ReadWindows := { windows with now := max windows.now now }
  obtain ⟨first, hfirst, hrecovery⟩ := closeIfDue_room .recovery clocked queue
    (by simp [EventQueue.size, hempty, EventQueue.capacity])
  have hroom : first.size < EventQueue.capacity := by
    rw [EventQueue.size, hrecovery, hempty]
    split <;> decide
  obtain ⟨second, hsecond, hidentification⟩ := closeIfDue_room .identification
    (clocked.withClosing .recovery ((clocked.closing .recovery).filter (clocked.now < ·))) first
    hroom
  have hrun : ((advance now).run (windows, queue)).value.2 =
      ((closeIfDue .identification).run
        ((closeIfDue .recovery).run (clocked, queue)).value.2).value.2 := rfl
  refine ⟨second, ?_, ?_⟩
  · rw [hrun, hfirst, hsecond]
    rfl
  · have hdue : windows.due now = [.recovery, .identification].filter clocked.isDue := rfl
    have hother : (clocked.withClosing .recovery
        ((clocked.closing .recovery).filter (clocked.now < ·))).isDue .identification =
          clocked.isDue .identification := rfl
    rw [hidentification, hrecovery, hempty, hdue, hother]
    cases hfirst : clocked.isDue .recovery <;> cases hsecond : clocked.isDue .identification <;>
      simp [hfirst, hsecond]

theorem movedTo_movedTo (windows : ReadWindows) {first second : Instant} (hle : first ≤ second) :
    (windows.movedTo first).movedTo second = windows.movedTo second := by
  have hclock := Instant.clock_le windows.now hle
  unfold movedTo
  simp only [Instant.clock_clock windows.now hle, Instant.filter_ahead hclock]

/-- Moving the windows in two steps closes those that moving them at once closes. -/
theorem length_due (windows : ReadWindows) {first second : Instant} (hle : first ≤ second) :
    (windows.due second).length =
      (windows.due first).length + ((windows.movedTo first).due second).length := by
  have hclock := Instant.clock_le windows.now hle
  have hbefore : (windows.due second).filter
      (fun mode ↦ (windows.closing mode).any (· ≤ max windows.now first)) = windows.due first := by
    unfold due
    rw [List.filter_filter]
    generalize max windows.now first = early, max windows.now second = late at hclock
    refine List.filter_congr fun mode _ ↦ ?_
    cases windows.closing mode with
    | none => rfl
    | some closing =>
      by_cases hclosed : closing ≤ early
      · simp [hclosed, Nat.le_trans hclosed hclock]
      · simp [hclosed]
  have hafter : (windows.due second).filter
      (fun mode ↦ !(windows.closing mode).any (· ≤ max windows.now first)) =
        (windows.movedTo first).due second := by
    unfold due
    simp only [List.filter_filter, closing_movedTo, now_movedTo,
      Instant.clock_clock windows.now hle]
    generalize max windows.now first = early, max windows.now second = late at hclock
    refine List.filter_congr fun mode _ ↦ ?_
    cases windows.closing mode with
    | none => rfl
    | some closing =>
      by_cases hclosed : closing ≤ early
      · simp [hclosed, Option.filter, Nat.not_lt.mpr hclosed]
      · simp [hclosed, Option.filter, Nat.lt_of_not_le hclosed]
  rw [← hbefore, ← hafter]
  exact List.length_eq_length_filter_add _

end ReadWindows

/-! ### Timers and windows -/

namespace Engine

variable {config : Config} {windows : ReadWindows} {before after : Memory} {calls : List Call}

/-- Every armed timer of a read mode has the window of the mode close at its deadline. -/
def Timed (windows : ReadWindows) (memory : Memory) : Prop :=
  ∀ mode : ReadMode, ∀ deadline,
    memory.timers.deadline (Mode.ofReadMode mode).timer = some deadline →
      windows.closing mode = some deadline

theorem Timed.effect {event : Event} {outcome : Except HandlingError Unit}
    (htimed : Timed windows before) (hstep : InStep config windows before)
    (heffect : Effect config before event calls (outcome.mapError .failed) after) :
    Timed (windows.afterCalls calls) after := by
  intro mode deadline hdeadline
  have hwindow : after.timers.deadline (Mode.ofReadMode mode).timer = _ :=
    congrArg Prod.snd (heffect.window (.ofReadMode mode))
  rw [heffect.closing windows mode]
  cases hopens : Handling.opens (.ofReadMode mode) ⟨before, event, outcome⟩ with
  | true =>
    rw [Handling.window_of_opens config hopens] at hwindow
    rw [hstep.now, hstep.length, ← hdeadline, hwindow]
    rfl
  | false =>
    obtain hnone | hkept := Handling.deadline_of_not_opens config hopens
    · rw [hwindow, hnone] at hdeadline
      cases hdeadline
    · rw [hwindow, hkept] at hdeadline
      exact htimed mode deadline hdeadline

theorem Timed.deliveries {events : List Event} {handlings : List Handling}
    (htimed : Timed windows before) (hstep : InStep config windows before)
    (hdeliveries : Deliveries config before events handlings calls after) :
    Timed (windows.afterCalls calls) after := by
  induction hdeliveries generalizing windows with
  | nil => exact htimed
  | cons heffect hrest ih =>
    rw [ReadWindows.afterCalls_append]
    exact ih (htimed.effect hstep heffect) (hstep.effect heffect)

/-- Moving both to the present disarms the timer together with closing its window. -/
theorem Timed.advance {now : Instant} {handlings : List Handling}
    (htimed : Timed windows before) (hstep : InStep config windows before)
    (hdeliveries : Deliveries config { before with timers := (before.timers.advance now).2 }
      ((before.timers.advance now).1.map .timerExpired) handlings calls after) :
    Timed ((windows.movedTo now).afterCalls calls) after := by
  intro mode deadline hdeadline
  have hwindow := hdeliveries.window_expired (.ofReadMode mode)
  have hkept : after.timers.deadline (Mode.ofReadMode mode).timer = _ :=
    congrArg Prod.snd hwindow
  rw [hkept, Timers.deadline_advance, Option.filter_eq_some_iff] at hdeadline
  rw [hdeliveries.afterCalls (by simp), ReadWindows.closing_movedTo, hstep.now,
    htimed mode deadline hdeadline.1, Option.filter_eq_some_iff]
  exact ⟨rfl, hdeadline.2⟩

end Engine

namespace Controller

open Engine

/-- Timers and windows of a controller are in step, both ways. -/
structure KeepsTime (config : Config) (controller : Controller Peripherals) : Prop where
  step : KeepsStep config controller
  timed : Timed controller.windows controller.tag.toMemory

theorem keepsTime_powerOn (config : Config) (start : Instant) :
    KeepsTime config (powerOn config start (Peripherals.create config start)).value where
  step := keepsStep_powerOn config start
  timed mode deadline hdeadline := by cases mode <;> cases hdeadline

theorem KeepsTime.move {config : Config} {before after : Controller Peripherals}
    {move : Move Peripherals} {handlings : List Handling} {calls : List Call}
    (hkeeps : KeepsTime config before) (hmoved : MovedOwn before move handlings calls after) :
    KeepsTime config after := by
  refine ⟨hkeeps.step.move hmoved, ?_⟩
  cases hmoved with
  | post => exact hkeeps.timed
  | outside => exact hkeeps.timed
  | pass hpassed =>
    obtain ⟨reports, expiries, others, expiryCalls, otherCalls, middle, hexpiries, hothers, -, rfl,
      -⟩ := hpassed.deliveries
    rw [hkeeps.step.configured] at hexpiries hothers
    rw [hpassed.windows, ReadWindows.afterCalls_append]
    exact (hkeeps.timed.advance hkeeps.step.inStep hexpiries).deliveries
      (hkeeps.step.inStep.advance hexpiries) hothers

/-! ### Passes with nothing queued -/

section Expiries

variable {σ : Type} [Device σ]

theorem handleAll_append (first second : List Event) :
    (handleAll (first ++ second) : Pass σ Unit) = handleAll first >>= fun _ ↦ handleAll second := by
  induction first with
  | nil => exact (pure_bind _ _).symm
  | cons event rest ih =>
    rw [List.cons_append, handleAll, handleAll, ih]
    exact (bind_assoc _ _ _).symm

/-- The report of a closed window whose mode has ended is counted, and nothing else. -/
theorem run_handle_exited {mode : ReadMode} {controller : Controller σ}
    (hdisarmed : controller.tag.timers.deadline (Mode.ofReadMode mode).timer = none)
    (hended : controller.tag.ledger.isActive (.ofReadMode mode) = false) :
    ∃ trace, (handle (.readModeExited mode)).run controller =
      ⟨.ok (.ok ()), { controller with handled := controller.handled + 1 }, trace⟩ := by
  have hidle : controller.tag.timers.isArmed (Mode.ofReadMode mode).timer = false := by
    simp [Timers.isArmed, hdisarmed]
  have hexited : ∃ trace,
      (TimedMode.readModeExited mode).run controller.tag = ⟨.ok (), controller.tag, trace⟩ := by
    simp [TimedMode.readModeExited, TimedMode.leave, Handler.cancel, Timers.value_cancel, hended,
      Timers.withDeadline_none_of_not_armed hidle, Log.debug]
  obtain ⟨trace, hrun⟩ := hexited
  simp [run_handle, run_deliver, Engine.handle, hrun, Stop.settle]

theorem run_handleAll_exited (modes : List ReadMode) (controller : Controller σ)
    (hdisarmed : ∀ mode ∈ modes,
      controller.tag.timers.deadline (Mode.ofReadMode mode).timer = none)
    (hended : ∀ mode ∈ modes, controller.tag.ledger.isActive (.ofReadMode mode) = false) :
    ∃ trace, (handleAll (modes.map .readModeExited)).run controller =
      ⟨.ok (), { controller with handled := controller.handled + .ofNat modes.length }, trace⟩ := by
  induction modes generalizing controller with
  | nil => exact ⟨[], by simp [handleAll]⟩
  | cons mode rest ih =>
    rw [List.forall_mem_cons] at hdisarmed hended
    obtain ⟨first, hfirst⟩ := run_handle_exited hdisarmed.1 hended.1
    obtain ⟨later, hlater⟩ := ih { controller with handled := controller.handled + 1 }
      hdisarmed.2 hended.2
    have hcount : controller.handled + 1 + .ofNat rest.length =
        controller.handled + .ofNat (mode :: rest).length := by
      rw [List.length_cons, Nat.add_comm, UInt32.ofNat_add, ← UInt32.add_assoc]
      rfl
    refine ⟨first ++ later, Act.run_bind_eq_ok.mpr ⟨_, _, _, _, hfirst, ?_, rfl⟩⟩
    rw [hlater, hcount]

theorem run_handleQueued_exited (modes : List ReadMode) (controller : Controller σ)
    (hqueue : controller.queue.events = modes.map .readModeExited)
    (hdisarmed : ∀ mode ∈ modes,
      controller.tag.timers.deadline (Mode.ofReadMode mode).timer = none)
    (hended : ∀ mode ∈ modes, controller.tag.ledger.isActive (.ofReadMode mode) = false) :
    ∃ count trace, handleQueued.run controller =
      ⟨.ok count, { controller with
        queue := .empty, handled := controller.handled + .ofNat modes.length }, trace⟩ := by
  obtain ⟨trace, hrun⟩ :=
    run_handleAll_exited modes { controller with queue := .empty } hdisarmed hended
  exact ⟨modes.length, trace, by simp [handleQueued, hqueue, hrun, Except.map]⟩

end Expiries

section Idle

variable {config : Config} {now : Instant} {controller : Controller Peripherals}

/-- The controller after the expiries of the timers that are due, before the time is told. -/
def afterExpiries (now : Instant) (controller : Controller Peripherals) : Controller Peripherals :=
  ((handleAll ((controller.tag.timers.advance now).1.map .timerExpired)).run controller).state

/-- The controller after a pass with nothing queued. -/
def afterIdlePass (now : Instant) (controller : Controller Peripherals) : Controller Peripherals :=
  (afterExpiries now controller).aside
    (Tag.aside (controller.tag.timers.advance now).2 (controller.windows.movedTo now)) .empty
    (.ofLedger (afterExpiries now controller).tag.ledger)
    (.ofNat (controller.windows.due now).length)

theorem handled_afterExpiries (now : Instant) (controller : Controller Peripherals) :
    ∃ handlings calls, Handled controller
      ((controller.tag.timers.advance now).1.map .timerExpired) handlings calls
      (afterExpiries now controller) := by
  obtain ⟨after, trace, hrun⟩ :=
    handleAll_expired_total (controller.tag.timers.advance now).1 controller
  have hafter : afterExpiries now controller = after := by rw [afterExpiries, hrun]
  rw [hafter]
  exact ⟨_, _, handleAll_eq_ok hrun⟩

/-- A mode whose window is due has its timer disarmed and ends, if it was active, with the expiries
of the pass. -/
theorem KeepsTime.ended (hkeeps : KeepsTime config controller) {mode : ReadMode}
    (hdue : mode ∈ controller.windows.due now) :
    (controller.tag.timers.advance now).2.deadline (Mode.ofReadMode mode).timer = none ∧
      (afterExpiries now controller).tag.ledger.isActive (.ofReadMode mode) = false := by
  obtain ⟨closing, hclosing, hreached⟩ := ReadWindows.mem_due.mp hdue
  rw [hkeeps.step.inStep.now] at hreached
  constructor
  · rw [Timers.deadline_advance, Option.filter_eq_none_iff]
    intro deadline hdeadline
    have hsame := hkeeps.timed mode deadline hdeadline
    rw [hclosing, Option.some.injEq] at hsame
    rw [decide_eq_true_eq, ← hsame]
    exact Nat.not_lt.mpr hreached
  · obtain ⟨handlings, calls, hhandled⟩ := handled_afterExpiries now controller
    have hactive : (afterExpiries now controller).tag.ledger.isActive (.ofReadMode mode) = _ :=
      congrArg Prod.fst (hhandled.deliveries.window_expired (.ofReadMode mode))
    rw [hactive]
    cases hbefore : controller.tag.ledger.isActive (.ofReadMode mode) with
    | false => rfl
    | true =>
      obtain ⟨-, hbacked⟩ := hkeeps.step.inStep.backed mode hbefore
      have hexpired : (Mode.ofReadMode mode).timer ∈ (controller.tag.timers.advance now).1 :=
        Timers.mem_advance.mpr ⟨closing, hbacked.symm.trans hclosing, hreached⟩
      simp [hexpired]

/-- Expiries are handled in the same way whatever has been done to the queue and the windows. -/
theorem run_handleExpired_aside (now : Instant) (controller : Controller Peripherals)
    (queue : EventQueue) (windows : ReadWindows) : ∃ count trace,
      (handleExpired now).run ({ controller with queue }.withWindows windows) =
        ⟨.ok count, (afterExpiries now controller).aside
          (Tag.aside (controller.tag.timers.advance now).2 windows) queue controller.gate 0,
          trace⟩ := by
  let expired := (controller.tag.timers.advance now).1
  let timers := (controller.tag.timers.advance now).2
  obtain ⟨after, trace, hrun⟩ := handleAll_expired_total expired controller
  have hafter : afterExpiries now controller = after := by rw [afterExpiries, hrun]
  obtain ⟨entries, hchanged⟩ :=
    (ignores_handleAll_expired timers windows queue controller.gate 0 expired).run_eq_ok hrun
  have htold : controller.aside (Tag.aside timers windows) queue controller.gate 0 =
      { { controller with queue }.withWindows windows with
        tag := { ({ controller with queue }.withWindows windows).tag with timers } } := by
    simp [aside, Tag.aside, withWindows]
  rw [htold] at hchanged
  rw [hafter]
  exact ⟨expired.length, [] ++ (entries ++ []), Act.run_bind_eq_ok.mpr ⟨expired, _, _, _,
    run_expireTimers now _, Act.run_bind_eq_ok.mpr ⟨(), _, _, _, hchanged, rfl, rfl⟩, rfl⟩⟩

theorem run_pass_idle (now : Instant) (hkeeps : KeepsTime config controller)
    (hempty : controller.queue.events = []) : ∃ trace, (pass now none).run controller =
      ⟨.ok (afterIdlePass now controller).tag.timers.next, afterIdlePass now controller,
        trace⟩ := by
  obtain ⟨queued, hmoved, hreports⟩ :=
    ReadWindows.advance_reports now controller.windows hempty
  obtain ⟨count, expiries, hexpired⟩ := run_handleExpired_aside now controller queued
    (controller.windows.movedTo now)
  obtain ⟨drained, others, hqueued⟩ := run_handleQueued_exited (controller.windows.due now)
    ((afterExpiries now controller).aside
      (Tag.aside (controller.tag.timers.advance now).2 (controller.windows.movedTo now)) queued
      controller.gate 0)
    hreports (fun mode hdue ↦ (hkeeps.ended hdue).1) (fun mode hdue ↦ (hkeeps.ended hdue).2)
  have hadvanced : ∃ trace, (advanceWindows now).run controller =
      ⟨.ok (), { controller with queue := queued }.withWindows (controller.windows.movedTo now),
        trace⟩ := by
    rw [run_advanceWindows]
    simp only [hmoved]
    exact ⟨_, rfl⟩
  obtain ⟨closings, hadvanced⟩ := hadvanced
  have hcount : ((afterExpiries now controller).aside
      (Tag.aside (controller.tag.timers.advance now).2 (controller.windows.movedTo now)) queued
      controller.gate 0).handled = (afterExpiries now controller).handled :=
    UInt32.add_zero _
  rw [hcount] at hqueued
  exact ⟨closings ++ (expiries ++ ([] ++ (others ++ ([] ++ ([] ++ []))))),
    Act.run_bind_eq_ok.mpr ⟨(), _, _, _, hadvanced,
      Act.run_bind_eq_ok.mpr ⟨count, _, _, _, hexpired,
      Act.run_bind_eq_ok.mpr ⟨(), _, _, _, rfl, Act.run_bind_eq_ok.mpr ⟨drained, _, _, _, hqueued,
        Act.run_bind_eq_ok.mpr ⟨(), _, _, _, rfl, rfl, rfl⟩, rfl⟩, rfl⟩, rfl⟩, rfl⟩⟩

/-- The later expiries are handled in the same way after a pass as without it. -/
theorem afterExpiries_afterIdlePass (controller : Controller Peripherals) {first second : Instant}
    (hle : first ≤ second) : afterExpiries second (afterIdlePass first controller) =
      (afterExpiries second controller).aside
        (Tag.aside (controller.tag.timers.advance first).2 (controller.windows.movedTo first))
        .empty (.ofLedger (afterExpiries first controller).tag.ledger)
        (.ofNat (controller.windows.due first).length) := by
  let later := ((controller.tag.timers.advance first).2.advance second).1
  obtain ⟨after, trace, hrun⟩ :=
    handleAll_expired_total (controller.tag.timers.advance first).1 controller
  have hafter : afterExpiries first controller = after := by rw [afterExpiries, hrun]
  have hboth : afterExpiries second controller =
      ((handleAll (later.map .timerExpired)).run after).state := by
    rw [afterExpiries, (controller.tag.timers.advance_advance hle).1, List.map_append,
      handleAll_append, Act.run_bind, hrun]
    rfl
  rw [hboth, ← hafter]
  exact (ignores_handleAll_expired _ _ _ _ _ later (afterExpiries first controller)).2

/-- Two passes with nothing queued leave what the later of them leaves alone. -/
theorem afterIdlePass_afterIdlePass (controller : Controller Peripherals) {first second : Instant}
    (hle : first ≤ second) :
    afterIdlePass second (afterIdlePass first controller) = afterIdlePass second controller := by
  have htimers : (afterIdlePass first controller).tag.timers =
      (controller.tag.timers.advance first).2 := rfl
  have hwindows : (afterIdlePass first controller).windows =
      controller.windows.movedTo first := rfl
  have hcount : UInt32.ofNat (controller.windows.due first).length +
      .ofNat ((controller.windows.movedTo first).due second).length =
        .ofNat (controller.windows.due second).length := by
    rw [← UInt32.ofNat_add, ← ReadWindows.length_due _ hle]
  rw [afterIdlePass, afterExpiries_afterIdlePass controller hle, htimers, hwindows,
    (controller.tag.timers.advance_advance hle).2, controller.windows.movedTo_movedTo hle,
    afterIdlePass, ← hcount]
  simp [aside, Tag.aside, UInt32.add_assoc]

end Idle

/-- In every state that a run over its own peripherals reaches with nothing queued, two passes leave
the controller exactly as the later of them alone would, counts, light, store and gate included,
and both answer with the same next deadline. No pass fails. -/
theorem two_passes_as_one (config : Config) (start : Instant) (moves : List (Move Peripherals))
    (run : Run (Controller Peripherals) (Move Peripherals))
    (hfollow : Run.follow performOwn
      (powerOn config start (Peripherals.create config start)).value moves = .ok run)
    (hempty : run.state.queue.events = []) {first second : Instant} (hle : first ≤ second) :
    ∃ early next middle after earlier later trace,
      (pass first none).run run.state = ⟨.ok early, middle, earlier⟩ ∧
        (pass second none).run middle = ⟨.ok next, after, later⟩ ∧
        (pass second none).run run.state = ⟨.ok next, after, trace⟩ := by
  have hkeeps : KeepsTime config run.state := by
    refine Run.follow_invariant hfollow (keepsTime_powerOn config start) ?_ _ run.state_mem_states
    intro before move trace after hbefore _ hrun
    exact hbefore.move (performOwn_eq_ok hrun)
  obtain ⟨earlier, hfirst⟩ := run_pass_idle first hkeeps hempty
  have hmiddle : KeepsTime config (afterIdlePass first run.state) :=
    hkeeps.move (.pass (pass_eq_ok hfirst))
  obtain ⟨later, hsecond⟩ := run_pass_idle second hmiddle rfl
  obtain ⟨trace, honce⟩ := run_pass_idle second hkeeps hempty
  rw [afterIdlePass_afterIdlePass run.state hle] at hsecond
  exact ⟨_, _, _, _, earlier, later, trace, hfirst, hsecond, honce⟩

/-- Both read modes are entered while a reset is pending that the store will not carry out. -/
def failingReset : List (Move Peripherals) :=
  [.outside fun parts ↦
      { parts with
        store := parts.store.setFault ⟨.delete, KeyRing.keySpace, KeyRing.slotKey 0⟩ (some .io) },
    .post (.provisioningChanged true), .post (.requested .recovery),
    .post (.requested .identification), .pass 0 none]

/-- The reset and one window come due by the first pass, the other window by the second. -/
theorem failing_reset_passed_twice :
    ∃ run, Run.follow performOwn (powerOn {} 0 (Peripherals.create {} 0)).value failingReset =
        .ok run ∧
      run.state.tag.timers =
        { now := 0, recovery := some 60000000, identification := some 300000000,
          factoryReset := some 3000000 } ∧
      ∃ early next middle after earlier later trace,
        (pass 60000000 none).run run.state = ⟨.ok early, middle, earlier⟩ ∧
          (pass 300000000 none).run middle = ⟨.ok next, after, later⟩ ∧
          (pass 300000000 none).run run.state = ⟨.ok next, after, trace⟩ := by
  obtain ⟨run, hrun, htimers, hempty⟩ : ∃ run,
      Run.follow performOwn (powerOn {} 0 (Peripherals.create {} 0)).value failingReset =
        .ok run ∧
      run.state.tag.timers =
        { now := 0, recovery := some 60000000, identification := some 300000000,
          factoryReset := some 3000000 } ∧
      run.state.queue.events = [] :=
    ⟨_, rfl, by decide +kernel, by decide +kernel⟩
  exact ⟨run, hrun, htimers,
    two_passes_as_one {} 0 failingReset run hrun hempty (by decide : 60000000 ≤ 300000000)⟩

end Controller

end TagControl
