import TagControl.Proofs.Windows
/-!
The pending reset: its cause in the ledger and the deadline of its timer, which every event writes
together. A report that the stored keys contradict and a first account key schedule a reset, a
completed provisioning withdraws one that waits for it, and the expiry of the timer runs it. Only
that expiry calls for a reset, and it does so once.
-/

set_option autoImplicit false

namespace TagControl

/-- The cause and the deadline of the pending reset. -/
def Memory.reset (memory : Memory) : Option ResetCause × Option Instant :=
  (memory.ledger.pending, memory.timers.deadline .factoryReset)

namespace Call

/-- Whether the call is a successful question about the keys with this answer. -/
def answersKey (keyPresent : Bool) : Call → Bool
  | holdsKey (.ok answer) => answer = keyPresent
  | _ => false

def isAdvertised : Call → Bool
  | advertise _ (.ok ()) => true
  | _ => false

def isReset : Call → Bool
  | factoryReset _ => true
  | _ => false

end Call

section Effects

variable {config : Config} {before after : Memory} {calls : List Call}
  {result : Except (Stop HandlingError) Unit}

theorem Reset.reset_scheduled (memory : Memory) (cause : ResetCause) (reached : Instant) :
    (scheduled memory cause reached).reset = (some cause, some reached) := by
  simp [Memory.reset, scheduled]

theorem Provisioning.reset_noted (memory : Memory) (provisioned : Bool) :
    (noted memory provisioned).reset =
      if Withdraws memory provisioned then (none, none) else memory.reset := by
  unfold Memory.reset noted
  split <;> simp

@[simp] theorem Provisioning.any_answersKey_noting (memory : Memory) (provisioned present : Bool) :
    (noting memory provisioned).any (Call.answersKey present) = false := by
  unfold noting
  split <;> rfl

@[simp] theorem Provisioning.countP_isReset_noting (memory : Memory) (provisioned : Bool) :
    (noting memory provisioned).countP Call.isReset = 0 := by
  unfold noting
  split <;> rfl

@[simp] theorem Provisioning.any_answersKey_resumption (cause : Option ResetCause)
    (present : Bool) : (resumption cause).any (Call.answersKey present) = false := by
  unfold resumption
  split <;> rfl

@[simp] theorem Provisioning.countP_isReset_resumption (cause : Option ResetCause) :
    (resumption cause).countP Call.isReset = 0 := by
  unfold resumption
  split <;> rfl

/-- A report schedules a reset exactly if the keys contradict it, and otherwise only withdraws. -/
theorem Provisioning.Reported.reset {provisioned : Bool} {outcome : Except HandlingError Unit}
    (hreported :
      Reported config provisioned before calls (outcome.mapError .failed) after) :
    after.reset =
      if calls.any (Call.answersKey !provisioned) then
        (some .keyMismatch, some (before.timers.now + config.mismatchDelay))
      else if Withdraws before provisioned then (none, none)
      else before.reset := by
  generalize hresult : outcome.mapError Stop.failed = result at hreported
  cases hreported with
  | queryFailed reason => simp [reset_noted, Call.answersKey]
  | mismatch stopped hroom => simp [Reset.reset_scheduled, Call.answersKey]
  | tooLate stopped hlate => cases outcome <;> cases hresult
  | afterReset hdone =>
    show (noted before provisioned).reset = _
    simp [reset_noted, Call.answersKey]
  | advertised hdone =>
    show (noted before provisioned).reset = _
    simp [reset_noted, Call.answersKey]
  | notAdvertised reason hdone =>
    show (noted before provisioned).reset = _
    simp [reset_noted, Call.answersKey]

/-- A written key schedules a reset exactly if it was advertised and no key was remembered. -/
theorem Provisioning.KeyWritten.reset {outcome : Except HandlingError Unit}
    (hwritten : KeyWritten config before calls (outcome.mapError .failed) after) :
    after.reset =
      if calls.any Call.isAdvertised && !before.ledger.keyPresent then
        (some .provisioningTimeout, some (before.timers.now + config.provisioningLimit))
      else before.reset := by
  generalize hresult : outcome.mapError Stop.failed = result at hwritten
  cases hwritten with
  | notAdvertised reason => simp [Call.isAdvertised]
  | first keyPresent hkey hroom =>
    show (Reset.scheduled before _ _).reset = _
    simp [Reset.reset_scheduled, Call.isAdvertised, hkey]
  | firstNotQueried reason hkey hroom => simp [Reset.reset_scheduled, Call.isAdvertised, hkey]
  | tooLate hkey hlate => cases outcome <;> cases hresult
  | later keyPresent hkey =>
    show before.reset = _
    simp [hkey]
  | laterNotQueried reason hkey => simp [hkey]

theorem TimedMode.Entered.reset {mode : Mode}
    (hentered : Entered config mode before calls result after) : after.reset = before.reset := by
  cases hentered with
  | entered hallowed hroom => simp [Memory.reset, Ne.symm]
  | _ => rfl

theorem TimedMode.Entered.countP_isReset {mode : Mode}
    (hentered : Entered config mode before calls result after) :
    calls.countP Call.isReset = 0 := by
  have hopening : ∀ provisioned, (opening provisioned mode).countP Call.isReset = 0 := by
    intro provisioned
    cases mode <;> rfl
  cases hentered with
  | refused hrefused => rfl
  | notOpened hallowed hfailed => cases hfailed <;> rfl
  | tooLate hallowed hlate => exact hopening _
  | entered hallowed hroom =>
    rw [List.countP_append, hopening]
    rfl

theorem TimedMode.Left.reset {mode : Mode} (hleft : Left mode before calls result after) :
    after.reset = before.reset := by
  cases hleft <;> simp [Memory.reset]

theorem TimedMode.Left.countP_isReset {mode : Mode}
    (hleft : Left mode before calls result after) : calls.countP Call.isReset = 0 := by
  cases hleft with
  | inactive hinactive => rfl
  | left stopped hactive =>
    unfold leaving
    split <;> rfl

theorem TimedMode.Extended.reset {command : Command}
    (hextended : Extended config command before calls result after) :
    after.reset = before.reset := by
  cases hextended <;> simp [Memory.reset]

/-- The expiry of the reset timer leaves nothing pending, and calls for a reset if one was. -/
theorem Engine.ResetExpired.reset (hexpired : ResetExpired before calls result after) :
    after.reset = (none, before.timers.deadline .factoryReset) ∧
      calls.countP Call.isReset = if before.ledger.pending.isSome then 1 else 0 := by
  obtain ⟨hexpired⟩ := hexpired
  cases hexpired with
  | idle hpending => simp [Memory.reset, hpending]
  | done hpending => simp [Memory.reset, hpending, Call.isReset, List.countP_cons]
  | failed hpending => simp [Memory.reset, hpending, Call.isReset, List.countP_cons]

/-- Only the expiry of the reset timer calls for a reset. -/
theorem Engine.Effect.countP_isReset {event : Event}
    (heffect : Effect config before event calls result after)
    (hother : event ≠ .timerExpired .factoryReset) : calls.countP Call.isReset = 0 := by
  cases event with
  | provisioningChanged provisioned =>
    cases heffect <;> simp [Call.isReset]
  | accountKeyWritten => cases heffect <;> rfl
  | readModeExited mode => exact TimedMode.Left.countP_isReset heffect
  | clockSynced => cases heffect <;> rfl
  | commandReceived command => cases heffect <;> rfl
  | requested request => exact TimedMode.Entered.countP_isReset heffect
  | timerExpired timer =>
    cases timer with
    | factoryReset => exact absurd rfl hother
    | dfu => exact TimedMode.Left.countP_isReset heffect
    | recovery => exact TimedMode.Left.countP_isReset heffect
    | identification => exact TimedMode.Left.countP_isReset heffect

/-- Neither the reset nor its deadline is touched by the events of the modes or of the clock. -/
theorem Engine.Effect.reset_other {event : Event}
    (heffect : Effect config before event calls result after)
    (hreport : ∀ provisioned, event ≠ .provisioningChanged provisioned)
    (hkey : event ≠ .accountKeyWritten) (hexpiry : ∀ timer, event ≠ .timerExpired timer) :
    after.reset = before.reset := by
  cases event with
  | provisioningChanged provisioned => exact absurd rfl (hreport provisioned)
  | accountKeyWritten => exact absurd rfl hkey
  | timerExpired timer => exact absurd rfl (hexpiry timer)
  | readModeExited mode =>
    have hother : Timer.factoryReset ≠ (Mode.ofReadMode mode).timer :=
      (Mode.timer_ne_factoryReset _).symm
    rw [TimedMode.Left.reset heffect]
    simp [Memory.reset, hother]
  | clockSynced => rw [Provisioning.ClockSynced.unchanged heffect]
  | commandReceived command => exact TimedMode.Extended.reset heffect
  | requested request => exact TimedMode.Entered.reset heffect

/-- Of the timers, only that of the reset touches the pending reset. -/
theorem Engine.Effect.reset_timerExpired {timer : Timer}
    (heffect : Effect config before (.timerExpired timer) calls result after) :
    after.reset = (if timer = .factoryReset then none else before.ledger.pending,
        before.timers.deadline .factoryReset) ∧
      calls.countP Call.isReset =
        if timer = .factoryReset ∧ before.ledger.pending.isSome then 1 else 0 := by
  by_cases htimer : timer = .factoryReset
  · subst htimer
    simpa using ResetExpired.reset heffect
  · have hcalls := heffect.countP_isReset (by simpa using htimer)
    cases hmode : Mode.ofTimer timer with
    | none => cases timer <;> simp_all [Mode.ofTimer]
    | some mode =>
      simp only [Effect, hmode] at heffect
      rw [heffect.reset]
      simp [htimer, hcalls, Memory.reset]

/-- Handling expired timers calls for a reset at most once. -/
theorem Engine.Deliveries.reset_expired {expired : List Timer} {handlings : List Handling}
    (hdeliveries :
      Deliveries config before (expired.map .timerExpired) handlings calls after) :
    after.reset = (if .factoryReset ∈ expired then none else before.ledger.pending,
        before.timers.deadline .factoryReset) ∧
      calls.countP Call.isReset =
        if .factoryReset ∈ expired ∧ before.ledger.pending.isSome then 1 else 0 := by
  induction expired generalizing before handlings calls with
  | nil =>
    cases hdeliveries
    simp [Memory.reset]
  | cons timer rest ih =>
    cases hdeliveries with
    | cons heffect hrest =>
      obtain ⟨hreset, hcount⟩ := heffect.reset_timerExpired
      obtain ⟨hpending, hdeadline⟩ := Prod.mk.injEq .. |>.mp hreset
      obtain ⟨hrestReset, hrestCount⟩ := ih hrest
      rw [hpending, hdeadline] at hrestReset
      rw [hpending] at hrestCount
      rw [List.countP_append, hcount, hrestCount, hrestReset]
      by_cases htimer : timer = .factoryReset
      · simp [htimer]
      · simp [htimer, Ne.symm htimer]

end Effects

end TagControl
