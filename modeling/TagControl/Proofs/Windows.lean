import TagControl.Proofs.Engine
/-!
The window of a timed mode: whether the mode is active, and the deadline of its timer. An accepted
entry of the mode, or an update command in the update mode, opens the window anew; the end of its
read window closes it; its expiry ends the mode and leaves the deadline. No other event touches the
window, whatever fails in its handling.
-/

set_option autoImplicit false

namespace TagControl

theorem Mode.timer_inj {first second : Mode} : first.timer = second.timer ↔ first = second := by
  cases first <;> cases second <;> decide

@[simp] theorem Mode.timer_ne_factoryReset (mode : Mode) : mode.timer ≠ .factoryReset := by
  cases mode <;> decide

/-- A timer is the reset's or a mode's. -/
theorem Timer.mode_cases {motive : Timer → Prop} (factoryReset : motive .factoryReset)
    (mode : ∀ mode : Mode, motive mode.timer) (timer : Timer) : motive timer := by
  cases timer with
  | factoryReset => exact factoryReset
  | dfu => exact mode .dfu
  | recovery => exact mode .recovery
  | identification => exact mode .identification

def Memory.window (memory : Memory) (mode : Mode) : Bool × Option Instant :=
  (memory.ledger.isActive mode, memory.timers.deadline mode.timer)

/-- Whether the handling of an event opened the window of a mode, or opened it anew: the mode was
asked for and not refused, or an update command came in the update mode. -/
def Handling.opens (mode : Mode) (handling : Handling) : Bool :=
  match handling.event, handling.outcome with
  | .requested request, .ok () =>
    request.mode = mode && !TimedMode.isRefused handling.memory.ledger mode
  | .commandReceived command, _ =>
    mode = .dfu && command.isUpdate && handling.memory.ledger.dfu
  | _, _ => false

/-- The window that the handling of an event leaves. -/
def Handling.window (config : Config) (mode : Mode) (handling : Handling) :
    Bool × Option Instant :=
  match handling.event with
  | .readModeExited exited =>
    if Mode.ofReadMode exited = mode then (false, none) else handling.memory.window mode
  | .timerExpired timer =>
    (handling.memory.ledger.isActive mode && timer ≠ mode.timer,
      handling.memory.timers.deadline mode.timer)
  | _ =>
    if handling.opens mode then
      (true, some (handling.memory.timers.now + mode.window config))
    else handling.memory.window mode

theorem Handling.window_of_opens (config : Config) {mode : Mode} {handling : Handling}
    (hopens : handling.opens mode = true) : handling.window config mode =
      (true, some (handling.memory.timers.now + mode.window config)) := by
  obtain ⟨memory, event, outcome⟩ := handling
  cases event with
  | commandReceived command => simp [Handling.window, hopens]
  | requested request => simp [Handling.window, hopens]
  | _ => cases hopens

theorem Handling.window_of_not_opens (config : Config) {mode : Mode} {handling : Handling}
    (hopens : handling.opens mode = false) : (handling.window config mode).1 = false ∨
      handling.window config mode = handling.memory.window mode := by
  obtain ⟨memory, event, outcome⟩ := handling
  cases event with
  | readModeExited exited =>
    by_cases hmode : Mode.ofReadMode exited = mode
    · simp [Handling.window, hmode]
    · simp [Handling.window, hmode]
  | timerExpired timer =>
    by_cases htimer : timer = mode.timer
    · simp [Handling.window, htimer]
    · simp [Handling.window, htimer, Memory.window]
  | _ => simp [Handling.window, hopens]

/-- The handling of an event that does not open the window of a mode disarms its timer or leaves its
deadline. -/
theorem Handling.deadline_of_not_opens (config : Config) {mode : Mode} {handling : Handling}
    (hopens : handling.opens mode = false) : (handling.window config mode).2 = none ∨
      (handling.window config mode).2 = handling.memory.timers.deadline mode.timer := by
  obtain ⟨memory, event, outcome⟩ := handling
  cases event with
  | readModeExited exited =>
    by_cases hmode : Mode.ofReadMode exited = mode
    · exact .inl (by simp [Handling.window, hmode])
    · exact .inr (by simp [Handling.window, hmode, Memory.window])
  | timerExpired timer => exact .inr rfl
  | _ => exact .inr (by simp [Handling.window, hopens, Memory.window])

/-- The handling of an event opens the window of a mode, ends the mode or leaves its window. -/
theorem Handling.window_cases (config : Config) (mode : Mode) (handling : Handling) :
    (handling.opens mode = true ∧ handling.window config mode =
      (true, some (handling.memory.timers.now + mode.window config))) ∨
    (handling.window config mode).1 = false ∨
    handling.window config mode = handling.memory.window mode := by
  cases hopens : handling.opens mode with
  | true => exact .inl ⟨rfl, window_of_opens config hopens⟩
  | false => exact .inr (window_of_not_opens config hopens)

theorem Memory.window_congr {first second : Memory} {mode : Mode}
    (hrecovery : first.ledger.recovery = second.ledger.recovery)
    (hidentification : first.ledger.identification = second.ledger.identification)
    (hdfu : first.ledger.dfu = second.ledger.dfu)
    (hdeadline : first.timers.deadline mode.timer = second.timers.deadline mode.timer) :
    first.window mode = second.window mode := by
  refine Prod.ext ?_ hdeadline
  cases mode
  · exact hrecovery
  · exact hidentification
  · exact hdfu

section Effects

variable {config : Config} {before after : Memory} {calls : List Call}
  {result : Except (Stop HandlingError) Unit}

theorem Reset.window_scheduled (memory : Memory) (cause : ResetCause) (reached : Instant)
    (mode : Mode) : (scheduled memory cause reached).window mode = memory.window mode :=
  Memory.window_congr rfl rfl rfl (by simp [scheduled])

theorem Provisioning.window_learnt (memory : Memory) (keyPresent : Bool) (mode : Mode) :
    (learnt memory keyPresent).window mode = memory.window mode :=
  Memory.window_congr rfl rfl rfl rfl

theorem Provisioning.window_noted (memory : Memory) (provisioned : Bool) (mode : Mode) :
    (noted memory provisioned).window mode = memory.window mode := by
  refine Memory.window_congr rfl rfl rfl ?_
  unfold noted
  split <;> simp

theorem Provisioning.Reported.window {provisioned : Bool}
    (hreported : Reported config provisioned before calls result after) (mode : Mode) :
    after.window mode = before.window mode := by
  have hlearnt : ∀ keyPresent, (learnt (noted before provisioned) keyPresent).window mode =
      before.window mode := by
    intro keyPresent
    rw [window_learnt, window_noted]
  cases hreported with
  | queryFailed reason => exact window_noted ..
  | mismatch stopped hroom => rw [Reset.window_scheduled, hlearnt]
  | tooLate stopped hlate => exact hlearnt _
  | afterReset hdone => exact (Memory.window_congr rfl rfl rfl rfl).trans (hlearnt provisioned)
  | advertised hdone => exact (Memory.window_congr rfl rfl rfl rfl).trans (hlearnt provisioned)
  | notAdvertised reason hdone => exact hlearnt _

theorem Provisioning.KeyWritten.window (hwritten : KeyWritten config before calls result after)
    (mode : Mode) : after.window mode = before.window mode := by
  cases hwritten with
  | notAdvertised reason => rfl
  | first keyPresent hkey hroom => rw [window_learnt, Reset.window_scheduled]
  | firstNotQueried reason hkey hroom => exact Reset.window_scheduled ..
  | tooLate hkey hlate => rfl
  | later keyPresent hkey => exact window_learnt ..
  | laterNotQueried reason hkey => rfl

theorem Provisioning.ClockSynced.unchanged (hsynced : ClockSynced before calls result after) :
    after = before := by
  cases hsynced <;> rfl

/-- Leaving a mode ends it, and touches neither its deadline nor the other modes. -/
theorem TimedMode.Left.window {left : Mode} (hleft : Left left before calls result after)
    (mode : Mode) : after.window mode =
      (before.ledger.isActive mode && mode ≠ left, before.timers.deadline mode.timer) := by
  cases hleft with
  | inactive hinactive =>
    by_cases hmode : mode = left
    · simp [Memory.window, hmode, hinactive]
    · simp [Memory.window, hmode]
  | left stopped hactive =>
    by_cases hmode : mode = left
    · simp [Memory.window, hmode]
    · simp [Memory.window, hmode]

theorem Engine.ResetExpired.window (hexpired : ResetExpired before calls result after)
    (mode : Mode) : after.window mode = before.window mode := by
  obtain ⟨hexpired⟩ := hexpired
  cases hexpired with
  | idle hpending => rfl
  | done hpending => exact Memory.window_congr rfl rfl rfl rfl
  | failed hpending => exact Memory.window_congr rfl rfl rfl rfl

/-- Entering a mode opens its window unless the entry is refused or fails. -/
theorem TimedMode.Entered.window {request : Request} {outcome : Except HandlingError Unit}
    (hentered : Entered config request.mode before calls (outcome.mapError .failed) after)
    (mode : Mode) : after.window mode =
      if Handling.opens mode ⟨before, .requested request, outcome⟩ then
        (true, some (before.timers.now + mode.window config))
      else before.window mode := by
  generalize hresult : outcome.mapError Stop.failed = result at hentered
  cases outcome with
  | error reason =>
    -- an entry that fails is abandoned before the memory is written
    cases hentered with
    | notOpened hallowed hfailed => rfl
    | refused hrefused => cases hresult
    | tooLate hallowed hlate => cases hresult
    | entered hallowed hroom => cases hresult
  | ok _ =>
    by_cases hmode : request.mode = mode
    · subst hmode
      cases hentered with
      | refused hrefused => simp [Handling.opens, hrefused]
      | notOpened hallowed hfailed => cases hresult
      | tooLate hallowed hlate => cases hresult
      | entered hallowed hroom => simp [Handling.opens, hallowed, Memory.window]
    · have hother : mode ≠ request.mode := fun heq ↦ hmode heq.symm
      cases hentered with
      | refused hrefused => simp [Handling.opens, hmode]
      | notOpened hallowed hfailed => cases hresult
      | tooLate hallowed hlate => cases hresult
      | entered hallowed hroom =>
        simp [Handling.opens, hmode, hother, Memory.window, Mode.timer_inj]

theorem TimedMode.Extended.window {command : Command} {outcome : Except HandlingError Unit}
    (hextended : Extended config command before calls (outcome.mapError .failed) after)
    (mode : Mode) : after.window mode =
      if Handling.opens mode ⟨before, .commandReceived command, outcome⟩ then
        (true, some (before.timers.now + mode.window config))
      else before.window mode := by
  generalize hresult : outcome.mapError Stop.failed = result at hextended
  cases hextended with
  | ignored hignored =>
    simp [Handling.opens, Bool.and_assoc, hignored]
  | tooLate htaken hlate => cases outcome <;> cases hresult
  | extended htaken hroom =>
    simp only [Bool.and_eq_true] at htaken
    by_cases hmode : mode = .dfu
    · subst hmode
      simp [Handling.opens, htaken, Memory.window, Mode.timer, Mode.window, Ledger.isActive]
    · have htimer : mode.timer ≠ .dfu := fun heq ↦ hmode (Mode.timer_inj.mp heq)
      simp [Handling.opens, hmode, htimer, Memory.window]

theorem Engine.Effect.window {event : Event} {outcome : Except HandlingError Unit}
    (heffect : Effect config before event calls (outcome.mapError .failed) after) (mode : Mode) :
    after.window mode = Handling.window config mode ⟨before, event, outcome⟩ := by
  cases event with
  | provisioningChanged provisioned => exact Provisioning.Reported.window heffect mode
  | accountKeyWritten => exact Provisioning.KeyWritten.window heffect mode
  | clockSynced =>
    obtain rfl := Provisioning.ClockSynced.unchanged heffect
    rfl
  | commandReceived command => exact TimedMode.Extended.window heffect mode
  | requested request => exact TimedMode.Entered.window heffect mode
  | readModeExited exited =>
    rw [TimedMode.Left.window heffect mode]
    by_cases hmode : Mode.ofReadMode exited = mode
    · simp [Handling.window, hmode]
    · have hother : mode ≠ Mode.ofReadMode exited := fun heq ↦ hmode heq.symm
      simp [Handling.window, hmode, hother, Mode.timer_inj, Memory.window]
  | timerExpired timer =>
    cases hleft : Mode.ofTimer timer with
    | none =>
      have hother : timer ≠ mode.timer := by
        rintro rfl
        simp at hleft
      simp only [Effect, hleft] at heffect
      rw [heffect.window mode]
      simp [Handling.window, hother, Memory.window]
    | some left =>
      obtain rfl := Mode.ofTimer_eq_some.mp hleft
      simp only [Effect, hleft] at heffect
      rw [heffect.window mode]
      simp [Handling.window, Mode.timer_inj, eq_comm]

end Effects

/-! ### Expiry -/

section Expiry

variable {config : Config} {before after : Memory} {handlings : List Handling} {calls : List Call}

/-- Handling expired timers ends their modes and touches no other window. -/
theorem Engine.Deliveries.window_expired {expired : List Timer}
    (hdeliveries :
      Deliveries config before (expired.map .timerExpired) handlings calls after)
    (mode : Mode) : after.window mode =
      (before.ledger.isActive mode && mode.timer ∉ expired, before.timers.deadline mode.timer) := by
  induction expired generalizing before handlings calls with
  | nil =>
    cases hdeliveries
    simp [Memory.window]
  | cons timer rest ih =>
    cases hdeliveries with
    | cons heffect hrest =>
      have hfirst := heffect.window mode
      simp only [Handling.window, Memory.window, Prod.mk.injEq] at hfirst
      rw [ih hrest, hfirst.1, hfirst.2]
      simp [Bool.and_assoc, eq_comm]

/-- Moving the timers to the present ends a mode exactly when its deadline has been reached. -/
theorem Engine.window_advance {now : Instant} {ending : Option Instant} {mode : Mode}
    (hdeliveries : Deliveries config { before with timers := (before.timers.advance now).2 }
      ((before.timers.advance now).1.map .timerExpired) handlings calls after)
    (hwindow : before.window mode = (ending.isSome, ending)) :
    after.window mode = ((ending.filter (max before.timers.now now < ·)).isSome,
      ending.filter (max before.timers.now now < ·)) := by
  obtain ⟨hactive, hdeadline⟩ := Prod.mk.injEq .. |>.mp hwindow
  rw [hdeliveries.window_expired mode, Timers.deadline_advance, hactive, hdeadline]
  simp only [Timers.mem_advance, hdeadline]
  generalize max before.timers.now now = clock
  cases ending with
  | none => rfl
  | some reached =>
    rcases Nat.lt_or_ge clock reached with hahead | hreached
    · simp [hahead, Nat.not_le.mpr hahead]
    · simp [hreached, Nat.not_lt.mpr hreached]

end Expiry

end TagControl
