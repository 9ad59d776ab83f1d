import TagControl.Bench
import TagControl.Proofs.PendingReset
/-!
The life of the pending reset over a whole run. `Engine.resetAccount` is kept from the steps of the
run: a report that the stored keys contradict and a first account key set the pending reset, a
completed provisioning withdraws one that waits for it, and the first move of the clock that
reaches its instant consumes it. The law is that the ledger's cause and the reset timer are always
those of the account, and that the device is told to reset exactly once for each reset consumed,
whether or not the reset succeeds.
-/

set_option autoImplicit false

namespace TagControl.Engine

variable {σ : Type}

/-- The pending reset, with its cause and its instant, and the number of resets consumed. -/
structure ResetAccount where
  pending : Option (ResetCause × Instant) := none
  consumed : Nat := 0
deriving DecidableEq

namespace ResetAccount

def after (config : Config) (account : ResetAccount) (step : Step (Tag σ) (Move σ)) :
    ResetAccount :=
  let calls := Trace.calls step.trace
  let now := step.before.timers.now
  match step.move with
  | .advance reached =>
    let clock := max now reached
    { pending := account.pending.filter (clock < ·.2)
      consumed := account.consumed + if account.pending.any (·.2 ≤ clock) then 1 else 0 }
  | .event (.provisioningChanged provisioned) =>
    if calls.any (Call.answersKey !provisioned) then
      { account with pending := some (.keyMismatch, now + config.mismatchDelay) }
    else if provisioned then
      { account with pending := account.pending.filter (·.1 ≠ .provisioningTimeout) }
    else account
  | .event .accountKeyWritten =>
    if calls.any Call.isAdvertised && !step.before.ledger.keyPresent then
      { account with pending := some (.provisioningTimeout, now + config.provisioningLimit) }
    else account
  | _ => account

/-- The memory holds the pending reset of the account, and the calls for a reset are as many as
the resets consumed. -/
structure Kept (account : ResetAccount) (memory : Memory) (calls : List Call) : Prop where
  cause : memory.ledger.pending = account.pending.map (·.1)
  armed : memory.timers.deadline .factoryReset = account.pending.map (·.2)
  resets : calls.countP Call.isReset = account.consumed

end ResetAccount

def resetAccount (config : Config) (steps : List (Step (Tag σ) (Move σ))) : ResetAccount :=
  steps.foldl (ResetAccount.after config) {}

namespace ResetAccount.Kept

variable {config : Config} {account : ResetAccount} {memory before final : Memory}
  {earlier calls : List Call}

theorem reset (hkept : account.Kept memory calls) :
    memory.reset = (account.pending.map (·.1), account.pending.map (·.2)) :=
  Prod.ext hkept.cause hkept.armed

/-- A step that calls for no reset may change what is pending, if the memory changes with it. -/
theorem replaced (hkept : account.Kept before earlier)
    {pending : Option (ResetCause × Instant)}
    (hreset : final.reset = (pending.map (·.1), pending.map (·.2)))
    (hcalls : calls.countP Call.isReset = 0) :
    ResetAccount.Kept { account with pending } final (earlier ++ calls) where
  cause := congrArg Prod.fst hreset
  armed := congrArg Prod.snd hreset
  resets := by rw [List.countP_append, hkept.resets, hcalls, Nat.add_zero]

theorem unchanged (hkept : account.Kept before earlier) (hreset : final.reset = before.reset)
    (hcalls : calls.countP Call.isReset = 0) : account.Kept final (earlier ++ calls) :=
  hkept.replaced (hreset.trans hkept.reset) hcalls

/-- A completed provisioning withdraws the pending reset if it waits for it. -/
theorem withdrawn (hkept : account.Kept before earlier)
    (hreset : final.reset = if Provisioning.Withdraws before true then (none, none)
      else before.reset)
    (hcalls : calls.countP Call.isReset = 0) :
    ResetAccount.Kept
      { account with pending := account.pending.filter (·.1 ≠ .provisioningTimeout) } final
      (earlier ++ calls) := by
  refine hkept.replaced (hreset.trans ?_) hcalls
  have hwithdraws : Provisioning.Withdraws before true ↔
      account.pending.map (·.1) = some .provisioningTimeout := by
    rw [← hkept.cause]
    exact and_iff_right rfl
  rw [hkept.reset]
  simp only [hwithdraws]
  cases account.pending with
  | none => simp
  | some pending =>
    obtain ⟨cause, reached⟩ := pending
    cases cause with
    | keyMismatch => simp [Option.filter]
    | provisioningTimeout => simp [Option.filter]

theorem reported {provisioned : Bool} {outcome : Except HandlingError Unit}
    (hkept : account.Kept before earlier)
    (heffect : Effect config before (.provisioningChanged provisioned) calls
      (outcome.mapError .failed) final) :
    (if calls.any (Call.answersKey !provisioned) then
      { account with
        pending := some (.keyMismatch, before.timers.now + config.mismatchDelay) }
    else if provisioned then
      { account with pending := account.pending.filter (·.1 ≠ .provisioningTimeout) }
    else account).Kept final (earlier ++ calls) := by
  have hreset := Provisioning.Reported.reset heffect
  have hcalls := heffect.countP_isReset (by simp)
  by_cases hanswer : calls.any (Call.answersKey !provisioned)
  · rw [if_pos hanswer] at hreset ⊢
    exact hkept.replaced hreset hcalls
  · rw [if_neg hanswer] at hreset ⊢
    cases provisioned with
    | true => exact hkept.withdrawn hreset hcalls
    | false => exact hkept.unchanged (by simpa [Provisioning.Withdraws] using hreset) hcalls

theorem keyWritten {outcome : Except HandlingError Unit} (hkept : account.Kept before earlier)
    (heffect : Effect config before .accountKeyWritten calls (outcome.mapError .failed) final) :
    (if calls.any Call.isAdvertised && !before.ledger.keyPresent then
      { account with
        pending := some (.provisioningTimeout, before.timers.now + config.provisioningLimit) }
    else account).Kept final (earlier ++ calls) := by
  have hreset := Provisioning.KeyWritten.reset heffect
  have hcalls := heffect.countP_isReset (by simp)
  by_cases hfirst : calls.any Call.isAdvertised && !before.ledger.keyPresent
  · rw [if_pos hfirst] at hreset ⊢
    exact hkept.replaced hreset hcalls
  · rw [if_neg hfirst] at hreset ⊢
    exact hkept.unchanged hreset hcalls

/-- The move of the clock that reaches the instant of the pending reset consumes it. -/
theorem advanced {now : Instant} {handlings : List Handling} (hkept : account.Kept before earlier)
    (hdeliveries : Deliveries config { before with timers := (before.timers.advance now).2 }
      ((before.timers.advance now).1.map .timerExpired) handlings calls final) :
    ResetAccount.Kept
      { pending := account.pending.filter (max before.timers.now now < ·.2)
        consumed := account.consumed +
          if account.pending.any (·.2 ≤ max before.timers.now now) then 1 else 0 }
      final (earlier ++ calls) := by
  obtain ⟨hreset, hcount⟩ := hdeliveries.reset_expired
  have hcause := hkept.cause
  have harmed := hkept.armed
  simp only [Timers.mem_advance, Timers.deadline_advance, harmed, hcause] at hreset hcount
  generalize max before.timers.now now = clock at hreset hcount ⊢
  have hresets : (earlier ++ calls).countP Call.isReset =
      account.consumed + if account.pending.any (·.2 ≤ clock) then 1 else 0 := by
    rw [List.countP_append, hkept.resets, hcount]
    cases account.pending <;> simp
  refine ⟨(congrArg Prod.fst hreset).trans ?_, (congrArg Prod.snd hreset).trans ?_, hresets⟩
  · cases account.pending with
    | none => simp
    | some pending =>
      rcases Nat.lt_or_ge clock pending.2 with hahead | hreached
      · simp [Option.filter, hahead]
      · simp [Option.filter, hreached, Nat.not_lt.mpr hreached]
  · cases account.pending with
    | none => rfl
    | some pending =>
      by_cases hahead : clock < pending.2
      · simp [Option.filter, hahead]
      · simp [Option.filter, hahead]

end ResetAccount.Kept

/-- One step keeps the account, unless it is the expiry of a timer that did not expire. -/
theorem ResetAccount.Kept.step {config : Config} {account : ResetAccount} {before after : Tag σ}
    {move : Move σ} {earlier : List Call} {trace : List Entry}
    (hkept : account.Kept before.toMemory earlier)
    (hgenuine : ∀ timer, move ≠ .event (.timerExpired timer))
    (hmoved : Moved config before.toMemory move (Trace.handlings trace) (Trace.calls trace)
      after.toMemory) :
    (account.after config ⟨before, move, trace, after⟩).Kept after.toMemory
      (earlier ++ Trace.calls trace) := by
  unfold ResetAccount.after
  generalize Trace.handlings trace = handlings at hmoved
  generalize Trace.calls trace = calls at hmoved
  generalize after.toMemory = final at hmoved
  cases hmoved with
  | outside => exact hkept.unchanged rfl rfl
  | advance hdeliveries => exact hkept.advanced hdeliveries
  | event heffect =>
    rename_i event outcome
    cases event with
    | provisioningChanged provisioned => exact hkept.reported heffect
    | accountKeyWritten => exact hkept.keyWritten heffect
    | timerExpired timer => exact absurd rfl (hgenuine timer)
    | readModeExited mode =>
      exact hkept.unchanged (heffect.reset_other (by simp) (by simp) (by simp))
        (heffect.countP_isReset (by simp))
    | clockSynced =>
      exact hkept.unchanged (heffect.reset_other (by simp) (by simp) (by simp))
        (heffect.countP_isReset (by simp))
    | commandReceived command =>
      exact hkept.unchanged (heffect.reset_other (by simp) (by simp) (by simp))
        (heffect.countP_isReset (by simp))
    | requested request =>
      exact hkept.unchanged (heffect.reset_other (by simp) (by simp) (by simp))
        (heffect.countP_isReset (by simp))

/-- In every run from power-on, if expiries come from the timers alone, the ledger and the timer say
of the pending reset what the account of schedulings, withdrawals and expiries says, and a reset has
been called for exactly once for each that the account has seen fall due. A run is cut short only
by the end of the clock. -/
theorem reset_once_per_consumed [Device σ] (config : Config) (start : Instant) (device : σ)
    (moves : List (Move σ)) (hgenuine : ∀ timer, .event (.timerExpired timer) ∉ moves) :
    (∀ run, Run.follow (perform config) (.powerOn start device) moves = .ok run →
      (resetAccount config run.steps).Kept run.state.toMemory (Trace.calls run.trace)) ∧
    ∀ overflow, Run.follow (perform config) (.powerOn start device) moves = .error overflow →
      CutShort config (.powerOn start device) moves := by
  refine ⟨fun run hfollow ↦ ?_, fun overflow ↦ cutShort_of_follow_eq_error⟩
  refine Run.follow_induction hfollow
    (motive := fun run ↦
      (resetAccount config run.steps).Kept run.state.toMemory (Trace.calls run.trace))
    ⟨rfl, rfl, rfl⟩ ?_
  intro earlier move trace after hearlier hmove hrun
  have hreal : ∀ timer, move ≠ .event (.timerExpired timer) := by
    rintro timer rfl
    exact hgenuine timer hmove
  rw [Run.steps_append, Run.trace_append, Trace.calls_append, resetAccount, List.foldl_append]
  exact hearlier.step hreal (perform_eq_ok hrun)

/-- A first key without a completed provisioning, then a report that finds no key stored: the
second reset replaces the first, fails when it is due, and is not tried again. -/
theorem failed_reset_not_retried :
    ∃ run, Run.follow (perform {}) (.powerOn 0 ({ resetFault := some .io } : Bench))
        [.event .accountKeyWritten, .advance 100000000, .event (.provisioningChanged true),
          .advance 103000000, .advance 300000000] = .ok run ∧
      ResetAccount.Kept { consumed := 1 } run.state.toMemory (Trace.calls run.trace) := by
  obtain ⟨run, hrun, haccount⟩ : ∃ run,
      Run.follow (perform {}) (.powerOn 0 ({ resetFault := some .io } : Bench))
        [.event .accountKeyWritten, .advance 100000000, .event (.provisioningChanged true),
          .advance 103000000, .advance 300000000] = .ok run ∧
      resetAccount {} run.steps = { consumed := 1 } := ⟨_, rfl, by decide +kernel⟩
  have hkept := (reset_once_per_consumed {} 0 ({ resetFault := some .io } : Bench) _
    (by simp)).1 run hrun
  rw [haccount] at hkept
  exact ⟨run, hrun, hkept⟩

end TagControl.Engine
