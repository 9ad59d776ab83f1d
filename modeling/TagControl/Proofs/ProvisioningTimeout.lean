import TagControl.Bench
import TagControl.Proofs.PendingReset
/-!
A reset that waits for provisioning to complete, and a tag whose provisioning is complete. The two
meet exactly when a written key is advertised on a provisioned tag that remembers no key, which it
does when the question about keys has failed since: `Engine.Overlooks`. In a run without such a
step a reset of this kind is pending only while the tag is unprovisioned.
-/

set_option autoImplicit false

namespace TagControl

/-- A reset for want of provisioning is pending only if the tag is unprovisioned. -/
def Memory.TimeoutJustified (memory : Memory) : Prop :=
  memory.ledger.pending = some .provisioningTimeout → memory.ledger.provisioned = false

section Effects

variable {config : Config} {before after : Memory} {calls : List Call}

theorem Memory.TimeoutJustified.kept (hjustified : before.TimeoutJustified)
    (hpending : after.ledger.pending = some .provisioningTimeout →
      before.ledger.pending = some .provisioningTimeout)
    (hprovisioned : after.ledger.provisioned = before.ledger.provisioned) :
    after.TimeoutJustified :=
  fun htimeout ↦ hprovisioned.trans (hjustified (hpending htimeout))

/-- A report withdraws the reset that it leaves no reason for, so nothing is assumed of the memory
that it finds. -/
theorem Engine.Effect.timeoutJustified_reported {provisioned : Bool}
    {outcome : Except HandlingError Unit}
    (heffect : Effect config before (.provisioningChanged provisioned) calls
      (outcome.mapError .failed) after) : after.TimeoutJustified := by
  intro htimeout
  have hprovisioned : after.ledger.provisioned = provisioned := heffect.provisioned
  have hpending : after.ledger.pending = _ :=
    congrArg Prod.fst (Provisioning.Reported.reset heffect)
  rw [hprovisioned]
  by_cases hanswer : calls.any (Call.answersKey !provisioned)
  · rw [if_pos hanswer, htimeout] at hpending
    cases hpending
  · by_cases hwithdraws : Provisioning.Withdraws before provisioned
    · rw [if_neg hanswer, if_pos hwithdraws, htimeout] at hpending
      cases hpending
    · rw [if_neg hanswer, if_neg hwithdraws, htimeout] at hpending
      by_contra hreported
      exact hwithdraws ⟨by simpa using hreported, hpending.symm⟩

/-- A written key breaks the justification exactly when it is advertised on a provisioned tag that
remembers no key. -/
theorem Engine.Effect.timeoutJustified_keyWritten {outcome : Except HandlingError Unit}
    (heffect : Effect config before .accountKeyWritten calls (outcome.mapError .failed) after)
    (hjustified : before.TimeoutJustified) :
    after.TimeoutJustified ↔ ¬(before.ledger.provisioned = true ∧
      before.ledger.keyPresent = false ∧ calls.any Call.isAdvertised = true) := by
  have hprovisioned : after.ledger.provisioned = before.ledger.provisioned := heffect.provisioned
  have hpending : after.ledger.pending = _ :=
    congrArg Prod.fst (Provisioning.KeyWritten.reset heffect)
  by_cases hfirst : calls.any Call.isAdvertised && !before.ledger.keyPresent
  · rw [if_pos hfirst] at hpending
    have hwritten : before.ledger.keyPresent = false ∧ calls.any Call.isAdvertised = true := by
      simpa [and_comm] using hfirst
    simp [Memory.TimeoutJustified, hpending, hprovisioned, hwritten]
  · rw [if_neg hfirst] at hpending
    have hkept : after.TimeoutJustified :=
      hjustified.kept (fun htimeout ↦ hpending.symm.trans htimeout) hprovisioned
    refine ⟨fun _ ⟨_, hkey, hadvertised⟩ ↦ hfirst ?_, fun _ ↦ hkept⟩
    simp [hkey, hadvertised]

/-- Every other event leaves the pending reset or clears it. -/
theorem Engine.Effect.timeoutJustified_other {event : Event} {outcome : Except HandlingError Unit}
    (heffect : Effect config before event calls (outcome.mapError .failed) after)
    (hjustified : before.TimeoutJustified)
    (hreport : ∀ provisioned, event ≠ .provisioningChanged provisioned)
    (hkey : event ≠ .accountKeyWritten) : after.TimeoutJustified := by
  have hunreported : report? event = none := by
    cases event with
    | provisioningChanged provisioned => exact absurd rfl (hreport provisioned)
    | _ => rfl
  have hprovisioned : after.ledger.provisioned = before.ledger.provisioned := by
    rw [heffect.provisioned, hunreported]
    rfl
  refine hjustified.kept (fun htimeout ↦ ?_) hprovisioned
  by_cases hexpiry : ∃ timer, event = .timerExpired timer
  · obtain ⟨timer, rfl⟩ := hexpiry
    have hpending : after.ledger.pending = _ := congrArg Prod.fst heffect.reset_timerExpired.1
    by_cases htimer : timer = .factoryReset
    · rw [hpending, if_pos htimer] at htimeout
      cases htimeout
    · rw [hpending, if_neg htimer] at htimeout
      exact htimeout
  · have hreset := heffect.reset_other hreport hkey fun timer hevent ↦ hexpiry ⟨timer, hevent⟩
    have hpending : after.ledger.pending = before.ledger.pending := congrArg Prod.fst hreset
    rw [← hpending]
    exact htimeout

end Effects

namespace Engine

variable {σ : Type}

/-- A written key is advertised on a provisioned tag that remembers no key. -/
def Overlooks (step : Step (Tag σ) (Move σ)) : Prop :=
  step.move = .event .accountKeyWritten ∧ step.before.ledger.provisioned = true ∧
    step.before.ledger.keyPresent = false ∧
    (Trace.calls step.trace).any Call.isAdvertised = true

theorem Deliveries.timeoutJustified_expired {config : Config} {before after : Memory}
    {expired : List Timer} {handlings : List Handling} {calls : List Call}
    (hdeliveries : Deliveries config before (expired.map .timerExpired) handlings calls after)
    (hjustified : before.TimeoutJustified) : after.TimeoutJustified := by
  refine hdeliveries.preserves ?_ hjustified
  intro event hevent found left made outcome heffect hfound
  obtain ⟨timer, -, rfl⟩ := List.mem_map.mp hevent
  exact heffect.timeoutJustified_other hfound (by simp) (by simp)

theorem Moved.timeoutJustified_iff {config : Config} {before after : Tag σ} {move : Move σ}
    {trace : List Entry}
    (hmoved : Moved config before.toMemory move (Trace.handlings trace) (Trace.calls trace)
      after.toMemory)
    (hjustified : before.TimeoutJustified) :
    after.TimeoutJustified ↔ ¬Overlooks ⟨before, move, trace, after⟩ := by
  unfold Overlooks
  generalize Trace.handlings trace = handlings at hmoved
  generalize Trace.calls trace = calls at hmoved ⊢
  generalize after.toMemory = final at hmoved ⊢
  cases hmoved with
  | outside => simpa using hjustified
  | advance hdeliveries =>
    have hfinal := hdeliveries.timeoutJustified_expired hjustified
    simpa using hfinal
  | event heffect =>
    rename_i event outcome
    by_cases hkey : event = .accountKeyWritten
    · subst hkey
      simpa using heffect.timeoutJustified_keyWritten hjustified
    · have hfinal : final.TimeoutJustified := by
        by_cases hreport : ∃ provisioned, event = .provisioningChanged provisioned
        · obtain ⟨provisioned, rfl⟩ := hreport
          exact heffect.timeoutJustified_reported
        · exact heffect.timeoutJustified_other hjustified
            (fun provisioned hevent ↦ hreport ⟨provisioned, hevent⟩) hkey
      simp [hkey, hfinal]

/-- Over a run from power-on, a reset for want of provisioning is pending only on an unprovisioned
tag exactly if no written key was advertised on a provisioned tag that remembered no key. -/
theorem timeoutJustified_iff_never_overlooks [Device σ] (config : Config) (start : Instant)
    (device : σ) (moves : List (Move σ)) (run : Run (Tag σ) (Move σ))
    (hfollow : Run.follow (perform config) (.powerOn start device) moves = .ok run) :
    (∀ tag ∈ run.states, tag.ledger.pending = some .provisioningTimeout →
      tag.ledger.provisioned = false) ↔ ∀ step ∈ run.steps, ¬Overlooks step := by
  refine Run.follow_induction hfollow
    (motive := fun run ↦ (∀ tag ∈ run.states, tag.TimeoutJustified) ↔
      ∀ step ∈ run.steps, ¬Overlooks step) ?_ ?_
  · simp [Run.states, Memory.TimeoutJustified, Tag.powerOn]
  · intro earlier move trace after hearlier hmove hrun
    rw [Run.states_append, Run.steps_append, List.forall_mem_append, List.forall_mem_append,
      ← hearlier, List.forall_mem_singleton, List.forall_mem_singleton]
    refine and_congr_right fun hjustified ↦ ?_
    exact (perform_eq_ok hrun).timeoutJustified_iff
      (hjustified _ earlier.state_mem_states)

/-- A first key on an unprovisioned tag: the reset that is then pending is justified. -/
theorem first_key_justified :
    ∃ run, Run.follow (perform {}) (.powerOn 0 ({} : Bench))
        [.event .accountKeyWritten, .advance 100000000] = .ok run ∧
      run.state.ledger.pending = some .provisioningTimeout ∧
      ∀ tag ∈ run.states, tag.ledger.pending = some .provisioningTimeout →
        tag.ledger.provisioned = false := by
  obtain ⟨run, hrun, hpending, hunprovisioned⟩ : ∃ run,
      Run.follow (perform {}) (.powerOn 0 ({} : Bench))
        [.event .accountKeyWritten, .advance 100000000] = .ok run ∧
      run.state.ledger.pending = some .provisioningTimeout ∧
      (run.steps.all fun step ↦ !step.before.ledger.provisioned) = true :=
    ⟨_, rfl, by decide +kernel, by decide +kernel⟩
  refine ⟨run, hrun, hpending, (timeoutJustified_iff_never_overlooks {} 0 _ _ run hrun).mpr ?_⟩
  rintro step hstep ⟨-, hprovisioned, -⟩
  simpa [hprovisioned] using List.all_eq_true.mp hunprovisioned step hstep

/-- A report on a tag that holds a key, whose key query fails, then another key once the query
works again: the tag is provisioned and will still be reset for want of provisioning. -/
theorem provisioned_tag_awaits_reset :
    ∃ run, Run.follow (perform {}) (.powerOn 0 ({ key := true, keyFault := some .io } : Bench))
        [.event (.provisioningChanged true), .outside fun bench ↦ { bench with keyFault := none },
          .event .accountKeyWritten] = .ok run ∧
      run.state.ledger.pending = some .provisioningTimeout ∧
      run.state.ledger.provisioned = true ∧
      run.state.timers.factoryReset = some 300000000 :=
  ⟨_, rfl, by decide +kernel, by decide +kernel, by decide +kernel⟩

end Engine

end TagControl
