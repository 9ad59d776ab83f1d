import TagControl.Bench
import TagControl.Proofs.Windows
/-!
The life of the timed modes over a whole run. `Engine.ending` keeps the account of one mode from
the steps of the run alone: accepted entries and, in the update mode, update commands set the end
of its window, the end of its read window and the first move of the clock that reaches the end
clear it, and nothing else counts. The law is that the ledger and the timer table always agree with
this account (`Engine.Accounted`), carried along the run one step at a time.
-/

set_option autoImplicit false

namespace TagControl.Engine

variable {σ : Type}

/-- The end of the window of a mode after a step, given its end before. -/
def endingAfter (config : Config) (mode : Mode) (ending : Option Instant)
    (step : Step (Tag σ) (Move σ)) : Option Instant :=
  match step.move with
  | .advance now => ending.filter (max step.before.timers.now now < ·)
  | .event (.readModeExited exited) => if Mode.ofReadMode exited = mode then none else ending
  | _ =>
    if (Trace.handlings step.trace).any (Handling.opens mode) then
      some (step.before.timers.now + mode.window config)
    else ending

def ending (config : Config) (mode : Mode) (steps : List (Step (Tag σ) (Move σ))) :
    Option Instant :=
  steps.foldl (endingAfter config mode) none

/-- The memory agrees with the account of a mode: the mode is active exactly if its window has an
end, its timer is armed for that end, and the end is not behind the clock. -/
structure Accounted (config : Config) (mode : Mode) (ending : Option Instant) (memory : Memory) :
    Prop where
  active : memory.ledger.isActive mode = ending.isSome
  armed : memory.timers.deadline mode.timer = ending
  ahead : ∀ reached ∈ ending, memory.timers.now ≤ reached ∧
    (0 < mode.window config → memory.timers.now < reached)

theorem Accounted.window {config : Config} {mode : Mode} {ending : Option Instant}
    {memory : Memory} (haccounted : Accounted config mode ending memory) :
    memory.window mode = (ending.isSome, ending) :=
  Prod.ext haccounted.active haccounted.armed

theorem accounted_of_window {config : Config} {mode : Mode} {ending : Option Instant}
    {memory : Memory} (hwindow : memory.window mode = (ending.isSome, ending))
    (hahead : ∀ reached ∈ ending, memory.timers.now ≤ reached ∧
      (0 < mode.window config → memory.timers.now < reached)) :
    Accounted config mode ending memory :=
  ⟨congrArg Prod.fst hwindow, congrArg Prod.snd hwindow, hahead⟩

theorem accounted_powerOn (config : Config) (mode : Mode) (now : Instant) (device : σ) :
    Accounted config mode none (Tag.powerOn now device).toMemory :=
  accounted_of_window (by cases mode <;> rfl) (by simp)

theorem Accounted.kept {config : Config} {mode : Mode} {ending : Option Instant}
    {before after : Memory} (haccounted : Accounted config mode ending before)
    (hnow : after.timers.now = before.timers.now)
    (hwindow : after.window mode = before.window mode) :
    Accounted config mode ending after := by
  refine accounted_of_window (hwindow.trans haccounted.window) ?_
  rw [hnow]
  exact haccounted.ahead

/-- An event that does not end the window of the mode opens it anew or leaves it. -/
theorem Accounted.opened {config : Config} {mode : Mode} {ending : Option Instant}
    {before after : Memory} (opens : Bool) (haccounted : Accounted config mode ending before)
    (hnow : after.timers.now = before.timers.now)
    (hwindow : after.window mode = if opens then
      (true, some (before.timers.now + mode.window config)) else before.window mode) :
    Accounted config mode
      (if opens then some (before.timers.now + mode.window config) else ending) after := by
  cases opens with
  | false => exact haccounted.kept hnow hwindow
  | true =>
    refine accounted_of_window hwindow ?_
    rintro reached ⟨rfl⟩
    rw [hnow]
    exact ⟨Nat.le_add_right _ _, Nat.lt_add_of_pos_right⟩

theorem Accounted.exited {config : Config} {mode : Mode} {ending : Option Instant}
    {before after : Memory} {exited : ReadMode} (haccounted : Accounted config mode ending before)
    (hnow : after.timers.now = before.timers.now)
    (hwindow : after.window mode =
      if Mode.ofReadMode exited = mode then (false, none) else before.window mode) :
    Accounted config mode (if Mode.ofReadMode exited = mode then none else ending) after := by
  by_cases hmode : Mode.ofReadMode exited = mode
  · rw [if_pos hmode] at hwindow ⊢
    exact accounted_of_window hwindow (by simp)
  · rw [if_neg hmode] at hwindow ⊢
    exact haccounted.kept hnow hwindow

theorem Accounted.advanced {config : Config} {mode : Mode} {ending : Option Instant}
    {before after : Memory} {now : Instant} {handlings : List Handling} {calls : List Call}
    (haccounted : Accounted config mode ending before)
    (hdeliveries : Deliveries config { before with timers := (before.timers.advance now).2 }
      ((before.timers.advance now).1.map .timerExpired) handlings calls after) :
    Accounted config mode (ending.filter (max before.timers.now now < ·)) after := by
  refine accounted_of_window (window_advance hdeliveries haccounted.window) ?_
  intro reached hreached
  have hahead : max before.timers.now now < reached := by
    simpa using (Option.filter_eq_some_iff.mp hreached).2
  rw [hdeliveries.now, Timers.now_advance]
  exact ⟨Nat.le_of_lt hahead, fun _ ↦ hahead⟩

/-- One step keeps the account, unless it is the expiry of a timer that did not expire. -/
theorem Accounted.step {config : Config} {mode : Mode} {ending : Option Instant}
    {before after : Tag σ} {move : Move σ} {trace : List Entry}
    (haccounted : Accounted config mode ending before.toMemory)
    (hgenuine : ∀ timer, move ≠ .event (.timerExpired timer))
    (hmoved : Moved config before.toMemory move (Trace.handlings trace) (Trace.calls trace)
      after.toMemory) :
    Accounted config mode (endingAfter config mode ending ⟨before, move, trace, after⟩)
      after.toMemory := by
  generalize hhandlings : Trace.handlings trace = handlings at hmoved
  generalize Trace.calls trace = calls at hmoved
  generalize after.toMemory = final at hmoved
  cases hmoved with
  | outside => simpa [endingAfter, hhandlings] using haccounted
  | advance hdeliveries => exact haccounted.advanced hdeliveries
  | event heffect =>
    rename_i event outcome
    have hwindow := heffect.window mode
    have hopened := haccounted.opened (Handling.opens mode ⟨before.toMemory, event, outcome⟩)
      heffect.now
    cases event with
    | readModeExited exited => exact haccounted.exited heffect.now hwindow
    | timerExpired timer => exact absurd rfl (hgenuine timer)
    | provisioningChanged provisioned => simpa [endingAfter, hhandlings] using hopened hwindow
    | accountKeyWritten => simpa [endingAfter, hhandlings] using hopened hwindow
    | clockSynced => simpa [endingAfter, hhandlings] using hopened hwindow
    | commandReceived command => simpa [endingAfter, hhandlings] using hopened hwindow
    | requested request => simpa [endingAfter, hhandlings] using hopened hwindow

/-- In every run from power-on, if expiries come from the timers alone, a mode is active exactly
inside its window: the account of when the window ends, kept from the events and the clock, is what
the ledger and the timer say. A run is cut short only by the end of the clock. -/
theorem active_iff_inside_window [Device σ] (config : Config) (start : Instant) (device : σ)
    (moves : List (Move σ)) (hgenuine : ∀ timer, .event (.timerExpired timer) ∉ moves) :
    (∀ run, Run.follow (perform config) (.powerOn start device) moves = .ok run →
      ∀ mode, Accounted config mode (ending config mode run.steps) run.state.toMemory) ∧
    ∀ overflow, Run.follow (perform config) (.powerOn start device) moves = .error overflow →
      CutShort config (.powerOn start device) moves := by
  refine ⟨fun run hfollow mode ↦ ?_, fun overflow ↦ cutShort_of_follow_eq_error⟩
  refine Run.follow_induction hfollow
    (motive := fun run ↦ Accounted config mode (ending config mode run.steps) run.state.toMemory)
    (accounted_powerOn config mode start device) ?_
  intro earlier move trace after hearlier hmove hrun
  have hreal : ∀ timer, move ≠ .event (.timerExpired timer) := by
    rintro timer rfl
    exact hgenuine timer hmove
  rw [Run.steps_append, ending, List.foldl_append]
  exact hearlier.step hreal (perform_eq_ok hrun)

/-- A minute of update mode, extended by an update command after half of it. -/
theorem update_window_extended :
    ∃ run, Run.follow (perform {}) (.powerOn 0 ({} : Bench))
        [.event (.requested .dfu), .advance 30000000,
          .event (.commandReceived ⟨.write, 1, 0, 0⟩), .advance 60000000] = .ok run ∧
      Accounted {} .dfu (some 90000000) run.state.toMemory := by
  obtain ⟨run, hrun, hending⟩ : ∃ run, Run.follow (perform {}) (.powerOn 0 ({} : Bench))
      [.event (.requested .dfu), .advance 30000000,
        .event (.commandReceived ⟨.write, 1, 0, 0⟩), .advance 60000000] = .ok run ∧
      ending {} .dfu run.steps = some 90000000 := ⟨_, rfl, by decide +kernel⟩
  have haccounted := (active_iff_inside_window {} 0 ({} : Bench) _ (by simp)).1 run hrun .dfu
  rw [hending] at haccounted
  exact ⟨run, hrun, haccounted⟩

end TagControl.Engine
