import TagControl.Bench
import TagControl.Proofs.PendingReset
/-!
A reset for a mismatch and the reports that follow the one that scheduled it. A report comes with a
verdict: whether the stored keys agree with the state that it reports. The reset is owed to the
last report that the keys contradict (`Engine.Owed`). A later report that they agree with withdraws
only a reset for want of provisioning, so it leaves the mismatch reset pending and the tag is reset
although its state is consistent again.
-/

set_option autoImplicit false

namespace TagControl

/-- Whether the direction did what it was told. -/
def Call.succeeded : Call → Bool
  | advertise _ (.error _) => false
  | holdsKey (.error _) => false
  | openWindow _ (.error _) => false
  | factoryReset (.error _) => false
  | _ => true

namespace Engine

variable {σ : Type}

/-- Whether the stored keys agree with the state reported, if a step is a report and the keys could
be asked for. -/
def verdict? (step : Step (Tag σ) (Move σ)) : Option Bool :=
  match step.move with
  | .event (.provisioningChanged provisioned) =>
    if (Trace.calls step.trace).any (Call.answersKey !provisioned) then some false
    else if (Trace.calls step.trace).any (Call.answersKey provisioned) then some true
    else none
  | _ => none

def lastVerdict (steps : List (Step (Tag σ) (Move σ))) : Option Bool :=
  (steps.filterMap verdict?).getLast?

/-- Whether the device is told to reset in a step, for a reset that was pending with this cause. -/
def resetsFor (cause : ResetCause) (step : Step (Tag σ) (Move σ)) : Bool :=
  step.before.ledger.pending = some cause && (Trace.calls step.trace).any Call.isReset

/-- A memory holds the mismatch reset that a report scheduled, and the steps since then found it
pending and left it so: none of them is a report that the keys contradict. -/
structure Owed (config : Config) (dispute : Step (Tag σ) (Move σ))
    (since : List (Step (Tag σ) (Move σ))) (memory : Memory) : Prop where
  disputed : verdict? dispute = some false
  undisputed : ∀ step ∈ since, verdict? step ≠ some false
  pending : ∀ step ∈ since, step.before.ledger.pending = some .keyMismatch
  armed : memory.reset =
    (some .keyMismatch, some (dispute.before.timers.now + config.mismatchDelay))

/-! ### One step -/

section Steps

variable {config : Config} {before after : Memory} {calls : List Call}

theorem Effect.reset_of_mismatch {event : Event} {outcome : Except HandlingError Unit}
    (heffect : Effect config before event calls (outcome.mapError .failed) after)
    (hreport : ∀ provisioned, event ≠ .provisioningChanged provisioned)
    (hpending : after.ledger.pending = some .keyMismatch) : after.reset = before.reset := by
  by_cases hkey : event = .accountKeyWritten
  · subst hkey
    have hreset := Provisioning.KeyWritten.reset heffect
    split at hreset
    · have hcause : after.ledger.pending = _ := congrArg Prod.fst hreset
      rw [hpending] at hcause
      cases hcause
    · exact hreset
  · by_cases hexpiry : ∃ timer, event = .timerExpired timer
    · obtain ⟨timer, rfl⟩ := hexpiry
      have hreset := heffect.reset_timerExpired.1
      have hcause : after.ledger.pending = _ := congrArg Prod.fst hreset
      split at hcause
      · rw [hpending] at hcause
        cases hcause
      · next htimer =>
        rw [if_neg htimer] at hreset
        exact hreset
    · exact heffect.reset_other hreport hkey fun timer hevent ↦ hexpiry ⟨timer, hevent⟩

/-- The move of the clock that leaves a mismatch reset pending leaves its deadline. -/
theorem Deliveries.reset_of_mismatch {now : Instant} {handlings : List Handling}
    (hdeliveries : Deliveries config { before with timers := (before.timers.advance now).2 }
      ((before.timers.advance now).1.map .timerExpired) handlings calls after)
    (hpending : after.ledger.pending = some .keyMismatch) : after.reset = before.reset := by
  have hreset := hdeliveries.reset_expired.1
  have hcause : after.ledger.pending = _ := congrArg Prod.fst hreset
  split at hcause
  · rw [hpending] at hcause
    cases hcause
  · next hahead =>
    rw [if_neg hahead] at hreset
    rw [hreset]
    refine Prod.ext rfl ?_
    rw [Timers.mem_advance] at hahead
    simp only [Timers.deadline_advance, Memory.reset]
    cases hdeadline : before.timers.deadline .factoryReset with
    | none => rfl
    | some reached =>
      have hlater : max before.timers.now now < reached :=
        Nat.lt_of_not_le fun hreached ↦ hahead ⟨reached, hdeadline, hreached⟩
      simp [Option.filter, hlater]

end Steps

/-- A step that leaves a mismatch reset pending is the report that scheduled it, or has left the
pending reset alone. -/
theorem Moved.reset_of_mismatch {config : Config} {before after : Tag σ} {move : Move σ}
    {trace : List Entry}
    (hmoved : Moved config before.toMemory move (Trace.handlings trace) (Trace.calls trace)
      after.toMemory)
    (hpending : after.ledger.pending = some .keyMismatch) :
    (verdict? ⟨before, move, trace, after⟩ = some false ∧ after.reset =
      (some .keyMismatch, some (before.timers.now + config.mismatchDelay))) ∨
    (verdict? ⟨before, move, trace, after⟩ ≠ some false ∧ after.reset = before.reset) := by
  unfold verdict?
  generalize Trace.handlings trace = handlings at hmoved
  generalize Trace.calls trace = calls at hmoved ⊢
  generalize after.toMemory = final at hmoved hpending ⊢
  cases hmoved with
  | outside => exact .inr ⟨by simp, rfl⟩
  | advance hdeliveries => exact .inr ⟨by simp, hdeliveries.reset_of_mismatch hpending⟩
  | event heffect =>
    rename_i event outcome
    cases event with
    | provisioningChanged provisioned =>
      have hreset := Provisioning.Reported.reset heffect
      by_cases hanswer : calls.any (Call.answersKey !provisioned)
      · rw [if_pos hanswer] at hreset
        exact .inl ⟨by simp [hanswer], hreset⟩
      · rw [if_neg hanswer] at hreset
        refine .inr ⟨?_, ?_⟩
        · simp only [hanswer, Bool.false_eq_true, if_false]
          split <;> simp
        · split at hreset
          · have hcause : final.ledger.pending = _ := congrArg Prod.fst hreset
            rw [hpending] at hcause
            cases hcause
          · exact hreset
    | _ => exact .inr ⟨by simp, heffect.reset_of_mismatch (by simp) hpending⟩

/-- Unless a timer's expiry is forged, the device is told to reset only by a move of the clock that
reaches the deadline of the pending reset. -/
theorem Moved.reached_of_reset {config : Config} {before after : Memory} {move : Move σ}
    {handlings : List Handling} {calls : List Call}
    (hmoved : Moved config before move handlings calls after)
    (hgenuine : ∀ timer, move ≠ .event (.timerExpired timer))
    (hreset : calls.any Call.isReset = true) :
    ∃ now reached, move = .advance now ∧ before.timers.deadline .factoryReset = some reached ∧
      reached ≤ max before.timers.now now := by
  have hcalled : calls.countP Call.isReset ≠ 0 := by
    rw [Ne, List.countP_eq_zero]
    intro hnone
    obtain ⟨call, hmem, hcall⟩ := List.any_eq_true.mp hreset
    exact hnone call hmem hcall
  cases hmoved with
  | outside => simp at hreset
  | event heffect =>
    rename_i event outcome
    have hother : event ≠ .timerExpired .factoryReset := by
      rintro rfl
      exact hgenuine _ rfl
    exact absurd (heffect.countP_isReset hother) hcalled
  | advance hdeliveries =>
    rename_i now
    have hcount := hdeliveries.reset_expired.2
    split at hcount
    · next hexpired =>
      obtain ⟨reached, hdeadline, hreached⟩ := Timers.mem_advance.mp hexpired.1
      exact ⟨now, reached, rfl, hdeadline, hreached⟩
    · exact absurd hcount hcalled

/-! ### Whole runs -/

theorem owed_of_pending [Device σ] {config : Config} {start : Instant} {device : σ}
    {moves : List (Move σ)} {run : Run (Tag σ) (Move σ)}
    (hfollow : Run.follow (perform config) (.powerOn start device) moves = .ok run)
    (hpending : run.state.ledger.pending = some .keyMismatch) :
    ∃ before dispute since, run.steps = before ++ dispute :: since ∧
      Owed config dispute since run.state.toMemory := by
  refine Run.follow_induction hfollow
    (motive := fun run ↦ run.state.ledger.pending = some .keyMismatch →
      ∃ before dispute since, run.steps = before ++ dispute :: since ∧
        Owed config dispute since run.state.toMemory) ?_ ?_ hpending
  · intro hnone
    cases hnone
  · intro earlier move trace after hearlier hmove hrun hafter
    rw [Run.state_append] at hafter ⊢
    obtain ⟨hverdict, hreset⟩ | ⟨hverdict, hreset⟩ :=
      (perform_eq_ok hrun).reset_of_mismatch hafter
    · refine ⟨earlier.steps, ⟨earlier.state, move, trace, after⟩, [], rfl, hverdict, ?_, ?_, hreset⟩
      · simp
      · simp
    · have hbefore : earlier.state.ledger.pending = some .keyMismatch := by
        rw [← hafter]
        exact (congrArg Prod.fst hreset).symm
      obtain ⟨before, dispute, since, hsteps, howed⟩ := hearlier hbefore
      refine ⟨before, dispute, since ++ [⟨earlier.state, move, trace, after⟩], ?_,
        howed.disputed, ?_, ?_, hreset.trans howed.armed⟩
      · simp [hsteps]
      · rw [List.forall_mem_append, List.forall_mem_singleton]
        exact ⟨howed.undisputed, hverdict⟩
      · rw [List.forall_mem_append, List.forall_mem_singleton]
        exact ⟨howed.pending, hbefore⟩

/-- The last verdict is that of the dispute unless the keys have agreed with a report since. -/
theorem Owed.lastVerdict_iff {config : Config} {dispute : Step (Tag σ) (Move σ)}
    {before since : List (Step (Tag σ) (Move σ))} {memory : Memory}
    (howed : Owed config dispute since memory) :
    lastVerdict (before ++ dispute :: since) = some false ↔
      ∀ step ∈ since, verdict? step ≠ some true := by
  have hverdicts : ∀ verdict ∈ since.filterMap verdict?, verdict = true := by
    intro verdict hmem
    obtain ⟨step, hstep, hverdict⟩ := List.mem_filterMap.mp hmem
    have hnot := howed.undisputed step hstep
    rw [hverdict] at hnot
    simpa using hnot
  rw [lastVerdict, List.filterMap_append, List.filterMap_cons_some howed.disputed,
    List.getLast?_append, List.getLast?_cons]
  cases hlast : (since.filterMap verdict?).getLast? with
  | none =>
    have hempty : since.filterMap verdict? = [] := List.getLast?_eq_none_iff.mp hlast
    rw [List.filterMap_eq_nil_iff] at hempty
    simp only [Option.getD_none, Option.some_or, true_iff]
    intro step hstep
    rw [hempty step hstep]
    simp
  | some verdict =>
    have hmem := List.mem_of_getLast? hlast
    obtain rfl := hverdicts verdict hmem
    obtain ⟨step, hstep, hverdict⟩ := List.mem_filterMap.mp hmem
    simp only [Option.getD_some, Option.some_or, Option.some.injEq, Bool.true_eq_false, false_iff]
    exact fun hnone ↦ hnone step hstep hverdict

/-- A reset for a mismatch is owed to the last report that the keys contradict: it has been pending
since that report, and comes no sooner than the delay after it. So the last verdict before it still
is that of the dispute, unless the keys agreed with a report that found the reset pending. -/
theorem mismatch_reset_owed_to_dispute [Device σ] (config : Config) (start : Instant) (device : σ)
    (moves : List (Move σ)) (hgenuine : ∀ timer, .event (.timerExpired timer) ∉ moves)
    (run : Run (Tag σ) (Move σ))
    (hfollow : Run.follow (perform config) (.powerOn start device) moves = .ok run)
    (earlier later : List (Step (Tag σ) (Move σ))) (reset : Step (Tag σ) (Move σ))
    (hsteps : run.steps = earlier ++ reset :: later)
    (hreset : resetsFor .keyMismatch reset = true) :
    ∃ before dispute since now, earlier = before ++ dispute :: since ∧
      Owed config dispute since reset.before.toMemory ∧
      reset.move = .advance now ∧
      dispute.before.timers.now + config.mismatchDelay ≤ max reset.before.timers.now now ∧
      (lastVerdict earlier = some false ↔ ∀ step ∈ since, verdict? step ≠ some true) := by
  simp only [resetsFor, Bool.and_eq_true, decide_eq_true_eq] at hreset
  obtain ⟨hpending, hcalled⟩ := hreset
  obtain ⟨⟨shorter, -, hshorter⟩, hmove, hperform⟩ := Run.follow_before_step hfollow hsteps
  obtain ⟨before, dispute, since, rfl, howed⟩ := owed_of_pending hshorter hpending
  have hreal : ∀ timer, reset.move ≠ .event (.timerExpired timer) := by
    intro timer hforged
    rw [hforged] at hmove
    exact hgenuine timer hmove
  obtain ⟨now, reached, hadvance, hdeadline, hreached⟩ :=
    (perform_eq_ok hperform).reached_of_reset hreal hcalled
  have harmed : reset.before.timers.deadline .factoryReset =
      some (dispute.before.timers.now + config.mismatchDelay) := congrArg Prod.snd howed.armed
  rw [harmed, Option.some.injEq] at hdeadline
  refine ⟨before, dispute, since, now, rfl, howed, hadvance, ?_, howed.lastVerdict_iff⟩
  rw [hdeadline]
  exact hreached

/-- Two reports that the keys contradict, then one that they agree with: the reset is owed to the
second and comes when the delay after it is over. -/
theorem reset_owed_to_second_dispute :
    ∃ run, Run.follow (perform {}) (.powerOn 0 ({ key := true } : Bench))
        [.event (.provisioningChanged false), .advance 2000000,
          .event (.provisioningChanged false), .event (.provisioningChanged true),
          .advance 5000000] = .ok run ∧
      ∃ earlier reset, run.steps = earlier ++ [reset] ∧ resetsFor .keyMismatch reset = true ∧
        ∃ before dispute since now, earlier = before ++ dispute :: since ∧
          Owed {} dispute since reset.before.toMemory ∧ reset.move = .advance now ∧
          dispute.before.timers.now + ({} : Config).mismatchDelay ≤
            max reset.before.timers.now now ∧
          (lastVerdict earlier = some false ↔ ∀ step ∈ since, verdict? step ≠ some true) := by
  obtain ⟨run, hrun, earlier, reset, hsteps, hreset⟩ : ∃ run,
      Run.follow (perform {}) (.powerOn 0 ({ key := true } : Bench))
        [.event (.provisioningChanged false), .advance 2000000,
          .event (.provisioningChanged false), .event (.provisioningChanged true),
          .advance 5000000] = .ok run ∧
      ∃ earlier reset, run.steps = earlier ++ [reset] ∧ resetsFor .keyMismatch reset = true :=
    ⟨_, rfl, [_, _, _, _], _, rfl, by decide +kernel⟩
  exact ⟨run, hrun, earlier, reset, hsteps, hreset,
    mismatch_reset_owed_to_dispute {} 0 _ _ (by simp) run hrun earlier [] reset hsteps hreset⟩

/-- A tag that holds a key is first reported unprovisioned and then provisioned. Every direction
succeeds and the keys agree with the last report, but the tag is reset and loses its key. -/
theorem resolved_mismatch_resets :
    ∃ run, Run.follow (perform {}) (.powerOn 0 ({ key := true } : Bench))
        [.event (.provisioningChanged false), .event (.provisioningChanged true),
          .advance 3000000] = .ok run ∧
      (Trace.calls run.trace).all Call.succeeded = true ∧
      ∃ earlier reset, run.steps = earlier ++ [reset] ∧ resetsFor .keyMismatch reset = true ∧
        lastVerdict earlier = some true ∧ reset.before.device.key = true ∧
        run.state.device.key = false :=
  ⟨_, rfl, by decide +kernel, [_, _], _, rfl, by decide +kernel, by decide +kernel, rfl, rfl⟩

end Engine

end TagControl
