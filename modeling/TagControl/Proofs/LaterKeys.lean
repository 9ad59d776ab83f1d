import TagControl.Bench
import TagControl.Proofs.FirstKey
/-!
Account keys written while a reset is pending for want of provisioning. A key is taken for the first
if none is remembered, and what is remembered is the last answer about the stored keys. So a later
key leaves the pending reset alone if keys were found when they were last asked for. If that
question failed, or found none, the later key starts the time for provisioning anew, and so does
each one after it.
-/

set_option autoImplicit false

namespace TagControl.Controller

open Engine

variable {σ : Type}

theorem Turned.tells_keyPresent {before after : Controller σ} {calls : List Call}
    (hturned : Turned before calls after) :
    Tells Call.keyAnswer? Ledger.keyPresent before.tag.ledger calls after.tag.ledger := by
  obtain ⟨timers, events, handlings, hdeliveries⟩ := hturned.deliveries
  exact hdeliveries.tells_keyPresent

/-- The memory that a written key leaves, with the pending reset of `KeyWritten.reset`. -/
theorem reset_keyWritten [Device σ] {before after : Controller σ} {trace : List Entry}
    (hrun : (take (.event .accountKeyWritten)).run before = ⟨.ok (), after, trace⟩) :
    after.tag.reset =
      if (Trace.calls trace).any Call.isAdvertised && !before.tag.ledger.keyPresent then
        (some .provisioningTimeout,
          some (before.tag.timers.now + before.config.provisioningLimit))
      else before.tag.reset := by
  obtain ⟨outcome, handled, earlier, _, hhandle, hend, rfl⟩ := Act.run_bind_eq_ok.mp hrun
  cases hend
  rw [List.append_nil]
  have hdeliveries := (handle_eq_ok hhandle).deliveries
  generalize Trace.handlings earlier = handlings at hdeliveries
  generalize Trace.calls earlier = calls at hdeliveries ⊢
  cases hdeliveries with
  | cons heffect hrest =>
    cases hrest
    rw [List.append_nil]
    exact Provisioning.KeyWritten.reset heffect

section Runs

variable [Device σ] {config : Config} {start : Instant} {bringUp : Traced Line σ}
  {turns : List (Turn σ)} {run : Run (Controller σ) (Turn σ)}

theorem config_of_follow
    (hfollow : Run.follow take (powerOn config start bringUp).value turns = .ok run) :
    run.state.config = config := by
  have hstates : ∀ controller ∈ run.states, controller.config = config := by
    refine Run.follow_invariant hfollow rfl ?_
    intro before turn trace after hbefore _ hrun
    exact (take_eq_ok hrun).config.trans hbefore
  exact hstates _ run.state_mem_states

theorem tells_keyPresent_of_follow
    (hfollow : Run.follow take (powerOn config start bringUp).value turns = .ok run) :
    run.state.tag.ledger.keyPresent =
      (Call.last Call.keyAnswer? (Trace.calls run.trace)).getD false := by
  have htells : Tells Call.keyAnswer? Ledger.keyPresent {} (Trace.calls run.trace)
      run.state.tag.ledger := by
    refine Run.follow_induction hfollow (motive := fun run ↦
      Tells Call.keyAnswer? Ledger.keyPresent {} (Trace.calls run.trace) run.state.tag.ledger) ?_ ?_
    · rfl
    · intro earlier turn trace after hearlier _ hrun
      rw [Run.trace_append, Trace.calls_append]
      exact hearlier.append (take_eq_ok hrun).tells_keyPresent
  exact htells.symm

end Runs

/-- Let an account key be written while a reset is pending for want of provisioning, in any state
that a run from power-on reaches. The reset stays pending, and its deadline stays exactly if the
event does not take the tag out of the pairing advertisement, or keys were found when they were last
asked for, or the deadline is already the one that a time started now would have. Otherwise the time
for provisioning starts anew. Nothing is assumed of the other events and of any answer. -/
theorem later_key_keeps_deadline_iff [Device σ] (config : Config) (start : Instant)
    (bringUp : Traced Line σ) (turns : List (Turn σ)) (run : Run (Controller σ) (Turn σ))
    (hfollow : Run.follow take (powerOn config start bringUp).value turns = .ok run)
    (earlier later : List (Step (Controller σ) (Turn σ))) (written : Step (Controller σ) (Turn σ))
    (hsteps : run.steps = earlier ++ written :: later)
    (hwritten : written.move = .event .accountKeyWritten)
    (hpending : written.before.tag.ledger.pending = some .provisioningTimeout) :
    let before := written.before.tag
    let after := written.after.tag
    let restarted := some (before.timers.now + config.provisioningLimit)
    after.ledger.pending = some .provisioningTimeout ∧
    (after.timers.factoryReset = before.timers.factoryReset ↔
      (Trace.calls written.trace).any Call.isAdvertised = false ∨
      Call.last Call.keyAnswer? (Trace.calls (earlier.flatMap (·.trace))) = some true ∨
      before.timers.factoryReset = restarted) ∧
    (after.timers.factoryReset = before.timers.factoryReset ∨
      after.timers.factoryReset = restarted) := by
  intro before after restarted
  obtain ⟨⟨shorter, -, hshorter⟩, -, hperform⟩ := Run.follow_before_step hfollow hsteps
  rw [hwritten] at hperform
  have hreset := reset_keyWritten hperform
  have hconfig : written.before.config = config := config_of_follow hshorter
  have hremembered : before.ledger.keyPresent =
      (Call.last Call.keyAnswer? (Trace.calls (earlier.flatMap (·.trace)))).getD false :=
    tells_keyPresent_of_follow hshorter
  rw [hconfig] at hreset
  by_cases hfirst : ((Trace.calls written.trace).any Call.isAdvertised &&
      !before.ledger.keyPresent) = true
  · rw [if_pos hfirst] at hreset
    have hcause : after.ledger.pending = some .provisioningTimeout := congrArg Prod.fst hreset
    have hdeadline : after.timers.factoryReset = restarted := congrArg Prod.snd hreset
    rw [Bool.and_eq_true, Bool.not_eq_true', hremembered] at hfirst
    obtain ⟨hadvertised, hunfound⟩ := hfirst
    refine ⟨hcause, ?_, .inr hdeadline⟩
    rw [hdeadline, hadvertised]
    constructor
    · exact fun hsame ↦ .inr (.inr hsame.symm)
    · rintro (habsurd | hfound | hsame)
      · cases habsurd
      · rw [hfound] at hunfound
        cases hunfound
      · exact hsame.symm
  · rw [if_neg hfirst] at hreset
    have hcause : after.ledger.pending = before.ledger.pending := congrArg Prod.fst hreset
    have hdeadline : after.timers.factoryReset = before.timers.factoryReset :=
      congrArg Prod.snd hreset
    refine ⟨hcause.trans hpending, iff_of_true hdeadline ?_, .inl hdeadline⟩
    rw [Bool.and_eq_true, Bool.not_eq_true', not_and, hremembered] at hfirst
    by_cases hadvertised : (Trace.calls written.trace).any Call.isAdvertised = true
    · have hfound := hfirst hadvertised
      refine .inr (.inl ?_)
      cases hlast : Call.last Call.keyAnswer? (Trace.calls (earlier.flatMap (·.trace))) with
      | none => simp [hlast] at hfound
      | some answer => simpa [hlast] using hfound
    · exact .inl (Bool.not_eq_true _ ▸ hadvertised)

/-- The keys are found after the first one is written, and a second one comes while the reset is
pending. -/
theorem second_key_keeps_deadline :
    ∃ run, Run.follow take (powerOn {} 0 (pure ({ key := true } : Bench))).value
        [.event .accountKeyWritten, .elapse 200000000, .event .accountKeyWritten] = .ok run ∧
      ∃ earlier written, run.steps = earlier ++ [written] ∧
        written.move = .event .accountKeyWritten ∧
        written.before.tag.ledger.pending = some .provisioningTimeout ∧
        written.before.tag.timers.factoryReset = some 300000000 ∧
        written.after.tag.timers.factoryReset = some 300000000 := by
  obtain ⟨run, hrun, earlier, written, hsteps, hwritten, hpending, hdeadline, hfound⟩ : ∃ run,
      Run.follow take (powerOn {} 0 (pure ({ key := true } : Bench))).value
        [.event .accountKeyWritten, .elapse 200000000, .event .accountKeyWritten] = .ok run ∧
      ∃ earlier written, run.steps = earlier ++ [written] ∧
        written.move = .event .accountKeyWritten ∧
        written.before.tag.ledger.pending = some .provisioningTimeout ∧
        written.before.tag.timers.factoryReset = some 300000000 ∧
        Call.last Call.keyAnswer? (Trace.calls (earlier.flatMap (·.trace))) = some true :=
    ⟨_, rfl, [_, _], _, rfl, rfl, rfl, by decide +kernel, rfl⟩
  obtain ⟨-, hkeeps, -⟩ := later_key_keeps_deadline_iff {} 0 _ _ run hrun earlier [] written hsteps
    hwritten hpending
  exact ⟨run, hrun, earlier, written, hsteps, hwritten, hpending, hdeadline,
    (hkeeps.mpr (.inr (.inl hfound))).trans hdeadline⟩

/-- The keys cannot be asked for after the first one is written, and the second one puts the reset
off. -/
theorem second_key_postpones_reset :
    ∃ run, Run.follow take (powerOn {} 0 (pure ({ key := true, keyFault := some .io } : Bench))).value
        [.event .accountKeyWritten, .elapse 100000000, .event .accountKeyWritten] = .ok run ∧
      ∃ earlier written, run.steps = earlier ++ [written] ∧
        written.move = .event .accountKeyWritten ∧
        written.before.tag.ledger.pending = some .provisioningTimeout ∧
        written.before.tag.timers.factoryReset = some 300000000 ∧
        written.after.tag.timers.factoryReset = some 400000000 :=
  ⟨_, rfl, [_, _], _, rfl, rfl, rfl, by decide +kernel, by decide +kernel⟩

end TagControl.Controller
