import TagControl.Proofs.Passes
/-!
The two clocks of a read mode: the timer that ends the mode and the window of the beacon. Each has
its own deadline, set by its own part of an entry, and each is moved by its own part of a pass. In
every run of a controller over its own peripherals they stay in step (`Controller.InStep`): while
the mode is active its window is open, and closes at the deadline of the timer. Reports of the
windows may be lost and exits and expiries forged, since these only end modes.
-/

set_option autoImplicit false

namespace TagControl

namespace Engine

/-- The timers and the read windows are in step: they show the same time, the windows have the
length of their modes, and an active mode has its window open until the deadline of its timer. -/
structure InStep (config : Config) (windows : ReadWindows) (memory : Memory) : Prop where
  now : windows.now = memory.timers.now
  length : ∀ mode, windows.length mode = mode.window config
  backed : ∀ mode, memory.ledger.isActive (.ofReadMode mode) = true →
    windows.isOpen mode = true ∧
      windows.closing mode = memory.timers.deadline (Mode.ofReadMode mode).timer

variable {config : Config} {windows : ReadWindows} {before after : Memory} {calls : List Call}

theorem inStep_powerOn (config : Config) (start : Instant) :
    InStep config (.create config start) { timers := { now := start } } where
  now := rfl
  length mode := by cases mode <;> rfl
  backed mode hactive := by cases mode <;> cases hactive

/-- An event that opens the window of a mode sets both deadlines from the same instant; any other
event leaves both or ends the mode. -/
theorem InStep.effect {event : Event} {outcome : Except HandlingError Unit}
    (hstep : InStep config windows before)
    (heffect : Effect config before event calls (outcome.mapError .failed) after) :
    InStep config (windows.afterCalls calls) after where
  now := by rw [ReadWindows.now_afterCalls, heffect.now, hstep.now]
  length mode := by rw [ReadWindows.length_afterCalls, hstep.length]
  backed mode hactive := by
    have hwindow := heffect.window (.ofReadMode mode)
    have hclosing := heffect.closing windows mode
    unfold ReadWindows.isOpen
    rw [hclosing]
    cases hopens : Handling.opens (.ofReadMode mode) ⟨before, event, outcome⟩ with
    | true =>
      rw [Handling.window_of_opens config hopens] at hwindow
      have hdeadline : after.timers.deadline (Mode.ofReadMode mode).timer = _ :=
        congrArg Prod.snd hwindow
      rw [hdeadline, hstep.now, hstep.length]
      exact ⟨rfl, rfl⟩
    | false =>
      obtain hended | hkept := Handling.window_of_not_opens config hopens
      · have hinactive : after.ledger.isActive (.ofReadMode mode) = false := by
          rw [← hended, ← hwindow]
          rfl
        rw [hactive] at hinactive
        cases hinactive
      · rw [hkept] at hwindow
        have hbefore : after.ledger.isActive (.ofReadMode mode) = _ := congrArg Prod.fst hwindow
        have hdeadline : after.timers.deadline (Mode.ofReadMode mode).timer = _ :=
          congrArg Prod.snd hwindow
        rw [hactive] at hbefore
        rw [hdeadline]
        exact hstep.backed mode hbefore.symm

theorem InStep.deliveries {events : List Event} {handlings : List Handling}
    (hstep : InStep config windows before)
    (hdeliveries : Deliveries config before events handlings calls after) :
    InStep config (windows.afterCalls calls) after := by
  induction hdeliveries generalizing windows with
  | nil => exact hstep
  | cons heffect hrest ih =>
    rw [ReadWindows.afterCalls_append]
    exact ih (hstep.effect heffect)

/-- Moving both to the present ends the modes whose window it closes. -/
theorem InStep.advance {now : Instant} {handlings : List Handling}
    (hstep : InStep config windows before)
    (hdeliveries : Deliveries config { before with timers := (before.timers.advance now).2 }
      ((before.timers.advance now).1.map .timerExpired) handlings calls after) :
    InStep config ((windows.movedTo now).afterCalls calls) after := by
  have hcalls : (windows.movedTo now).afterCalls calls = windows.movedTo now :=
    hdeliveries.afterCalls (by simp) _
  rw [hcalls]
  constructor
  · rw [hdeliveries.now, ReadWindows.now_movedTo, Timers.now_advance, hstep.now]
  · intro mode
    rw [ReadWindows.length_movedTo, hstep.length]
  · intro mode hactive
    have hwindow := hdeliveries.window_expired (.ofReadMode mode)
    have hdeadline : after.timers.deadline (Mode.ofReadMode mode).timer = _ :=
      congrArg Prod.snd hwindow
    have hboth : (before.ledger.isActive (.ofReadMode mode) &&
        decide ((Mode.ofReadMode mode).timer ∉ (before.timers.advance now).1)) = true :=
      (congrArg Prod.fst hwindow).symm.trans hactive
    rw [Bool.and_eq_true, decide_eq_true_eq] at hboth
    obtain ⟨hbefore, hunexpired⟩ := hboth
    obtain ⟨hopen, hclosing⟩ := hstep.backed mode hbefore
    obtain ⟨closing, hsome⟩ := Option.isSome_iff_exists.mp hopen
    have hahead : max before.timers.now now < closing := by
      by_contra hreached
      exact hunexpired (Timers.mem_advance.mpr
        ⟨closing, hclosing.symm.trans hsome, Nat.le_of_not_lt hreached⟩)
    unfold ReadWindows.isOpen
    rw [hdeadline, Timers.deadline_advance, ReadWindows.closing_movedTo, hstep.now, ← hclosing,
      hsome]
    simp [Option.filter, hahead]

end Engine

namespace Controller

open Engine

/-- A controller has its configuration, and its timers and windows are in step. -/
structure KeepsStep (config : Config) (controller : Controller Peripherals) : Prop where
  configured : controller.config = config
  inStep : InStep config controller.windows controller.tag.toMemory

theorem keepsStep_powerOn (config : Config) (start : Instant) :
    KeepsStep config (powerOn config start (Peripherals.create config start)).value where
  configured := rfl
  inStep := inStep_powerOn config start

theorem KeepsStep.move {config : Config} {before after : Controller Peripherals}
    {move : Move Peripherals} {handlings : List Handling} {calls : List Call}
    (hkeeps : KeepsStep config before) (hmoved : MovedOwn before move handlings calls after) :
    KeepsStep config after := by
  cases hmoved with
  | post => exact ⟨hkeeps.configured, hkeeps.inStep⟩
  | outside => exact ⟨hkeeps.configured, hkeeps.inStep⟩
  | pass hpassed =>
    obtain ⟨reports, expiries, others, expiryCalls, otherCalls, middle, hexpiries, hothers, -, rfl,
      -⟩ := hpassed.deliveries
    rw [hkeeps.configured] at hexpiries hothers
    refine ⟨hpassed.config.trans hkeeps.configured, ?_⟩
    rw [hpassed.windows, ReadWindows.afterCalls_append]
    exact (hkeeps.inStep.advance hexpiries).deliveries hothers

/-- In every run over its own peripherals, whatever is posted and whenever the passes come, an
active read mode has its window open, and the window closes at the deadline of the mode's timer. -/
theorem active_mode_closes_with_timer (config : Config) (start : Instant)
    (moves : List (Move Peripherals)) (run : Run (Controller Peripherals) (Move Peripherals))
    (hfollow : Run.follow performOwn
      (powerOn config start (Peripherals.create config start)).value moves = .ok run) :
    ∀ controller ∈ run.states, ∀ mode : ReadMode,
      controller.tag.ledger.isActive (.ofReadMode mode) = true →
        controller.windows.isOpen mode = true ∧
          controller.windows.closing mode =
            controller.tag.timers.deadline (Mode.ofReadMode mode).timer := by
  have hkept : ∀ controller ∈ run.states, KeepsStep config controller := by
    refine Run.follow_invariant hfollow (keepsStep_powerOn config start) ?_
    intro before move trace after hbefore _ hrun
    exact hbefore.move (performOwn_eq_ok hrun)
  intro controller hcontroller mode
  exact (hkept controller hcontroller).inStep.backed mode

/-- Recovery mode entered, and entered again half a minute later in a pass that is also told of a
forged end of the other window: window and timer have moved on together. -/
theorem refreshed_window_in_step :
    ∃ run, Run.follow performOwn (powerOn {} 0 (Peripherals.create {} 0)).value
        [.post (.provisioningChanged true), .post (.requested .recovery), .pass 0 none,
          .post (.readModeExited .identification),
          .pass 30000000 (some (.requested .recovery))] = .ok run ∧
      run.state.tag.ledger.recovery = true ∧
      run.state.tag.timers.recovery = some 90000000 ∧
      ∀ controller ∈ run.states, ∀ mode : ReadMode,
        controller.tag.ledger.isActive (.ofReadMode mode) = true →
          controller.windows.isOpen mode = true ∧
            controller.windows.closing mode =
              controller.tag.timers.deadline (Mode.ofReadMode mode).timer := by
  obtain ⟨run, hrun, hactive, hdeadline⟩ : ∃ run,
      Run.follow performOwn (powerOn {} 0 (Peripherals.create {} 0)).value
        [.post (.provisioningChanged true), .post (.requested .recovery), .pass 0 none,
          .post (.readModeExited .identification),
          .pass 30000000 (some (.requested .recovery))] = .ok run ∧
      run.state.tag.ledger.recovery = true ∧ run.state.tag.timers.recovery = some 90000000 :=
    ⟨_, rfl, by decide +kernel, by decide +kernel⟩
  exact ⟨run, hrun, hactive, hdeadline, active_mode_closes_with_timer {} 0 _ run hrun⟩

end Controller

end TagControl
