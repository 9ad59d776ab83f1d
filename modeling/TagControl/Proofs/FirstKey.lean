import TagControl.Proofs.Directed
import TagControl.Proofs.KeyConsistency
import TagControl.Proofs.Mismatch
/-!
Whether the first account key of an empty store starts the time in which provisioning must be
completed. A written key is taken for the first if none is remembered, and what is remembered is
the last answer about the stored keys. A reset erases the keys without asking, so until the next
question an answer from before it is outdated (`Call.Outdated`): a key written then is not taken for
the first, although it is, and no reset is pending. At any other time the first key has a deadline.
-/

set_option autoImplicit false

namespace TagControl

/-- Without a reset a key that is gone was never there. -/
theorem KeyLife.gone {stored : Bool} {calls : List Call} (hlife : KeyLife stored calls false)
    (hreset : calls.countP Call.isReset = 0) : stored = false := by
  by_contra hstored
  cases hlife.kept hreset (by simpa using hstored)

/-- A key that was there and is gone was taken by a reset. -/
theorem KeyLife.reset_of_gone {calls : List Call} (hlife : KeyLife true calls false) :
    ∃ earlier later, calls = earlier ++ .factoryReset (.ok ()) :: later := by
  have hreset : calls.countP Call.isReset ≠ 0 := fun hnone ↦ by cases hlife.gone hnone
  rw [Ne, List.countP_eq_zero, not_forall₂] at hreset
  obtain ⟨call, hmem, hcall⟩ := hreset
  cases call with
  | factoryReset answer =>
    cases answer with
    | error reason => exact absurd hmem (hlife.resets_succeed reason)
    | ok _ => exact List.append_of_mem hmem
  | _ => simp [Call.isReset] at hcall

namespace Call

/-- What a call learns about the stored keys. -/
def keyAnswer? : Call → Option Bool
  | holdsKey (.ok answer) => some answer
  | _ => none

/-- Keys were stored when they were last asked for, and a reset has erased them since. -/
def Outdated (calls : List Call) : Prop :=
  ∃ before since, calls = before ++ .factoryReset (.ok ()) :: since ∧
    last keyAnswer? before = some true ∧ last keyAnswer? since = none

/-- The last answer was given by one of the calls, and none came after it. -/
theorem split_of_last_keyAnswer {calls : List Call} {answer : Bool}
    (hlast : last keyAnswer? calls = some answer) :
    ∃ before since, calls = before ++ .holdsKey (.ok answer) :: since ∧
      last keyAnswer? since = none := by
  induction calls with
  | nil => cases hlast
  | cons call calls ih =>
    cases hlater : last keyAnswer? calls with
    | some later =>
      obtain rfl : later = answer := by simpa [hlater] using hlast
      obtain ⟨before, since, rfl, hsince⟩ := ih hlater
      exact ⟨call :: before, since, rfl, hsince⟩
    | none =>
      rw [last_cons, hlater, Option.none_or] at hlast
      unfold keyAnswer? at hlast
      split at hlast
      · cases hlast
        exact ⟨[], calls, rfl, hlater⟩
      · cases hlast

/-- An answer that keys are stored is outdated if they no longer are: only a reset takes them. -/
theorem outdated_iff_of_gone {stored : Bool} {calls : List Call}
    (hlife : KeyLife stored calls false) :
    Outdated calls ↔ last keyAnswer? calls = some true := by
  constructor
  · rintro ⟨before, since, rfl, hbefore, hsince⟩
    simp [hbefore, hsince, keyAnswer?]
  · intro hlast
    obtain ⟨before, since, rfl, hsince⟩ := split_of_last_keyAnswer hlast
    obtain ⟨middle, -, hasked⟩ := hlife.append_inv
    cases hasked with
    | cons hkept hstep hrest =>
      cases hstep with
      | other hother => cases hother
      | asked =>
        obtain ⟨earlier, later, rfl⟩ := hrest.reset_of_gone
        obtain ⟨hlater, hearlier⟩ :
            last keyAnswer? later = none ∧ last keyAnswer? earlier = none := by
          simpa [keyAnswer?] using hsince
        exact ⟨before ++ .holdsKey (.ok true) :: earlier, later, by simp,
          by simp [hearlier, keyAnswer?], hlater⟩

end Call

/-! ### Events -/

section Effects

variable {config : Config} {before after : Memory} {calls : List Call} {stored final : Bool}
  {result : Except (Stop HandlingError) Unit}

open Engine

@[simp] theorem Provisioning.last_keyAnswer_noting (memory : Memory) (provisioned : Bool) :
    Call.last Call.keyAnswer? (noting memory provisioned) = none := by
  unfold noting
  split <;> rfl

@[simp] theorem Provisioning.last_keyAnswer_resumption (cause : Option ResetCause) :
    Call.last Call.keyAnswer? (resumption cause) = none := by
  unfold resumption
  split <;> rfl

theorem TimedMode.Entered.tells_keyPresent {mode : Mode}
    (hentered : Entered config mode before calls result after) :
    Tells Call.keyAnswer? Ledger.keyPresent before.ledger calls after.ledger := by
  cases hentered with
  | refused hrefused => rfl
  | notOpened hallowed hfailed => cases hfailed <;> rfl
  | tooLate hallowed hlate => cases mode <;> rfl
  | entered hallowed hroom => cases mode <;> rfl

theorem TimedMode.Left.tells_keyPresent {mode : Mode}
    (hleft : Left mode before calls result after) :
    Tells Call.keyAnswer? Ledger.keyPresent before.ledger calls after.ledger := by
  cases hleft with
  | inactive hinactive => rfl
  | left stopped hactive => cases mode <;> rfl

theorem Engine.ResetExpired.tells_keyPresent (hexpired : ResetExpired before calls result after) :
    Tells Call.keyAnswer? Ledger.keyPresent before.ledger calls after.ledger := by
  obtain ⟨hexpired⟩ := hexpired
  cases hexpired <;> simp [Tells, Call.keyAnswer?]

/-- What is remembered of the keys is the last answer, whatever the event and however it ends. -/
theorem Engine.Effect.tells_keyPresent {event : Event}
    (heffect : Effect config before event calls result after) :
    Tells Call.keyAnswer? Ledger.keyPresent before.ledger calls after.ledger := by
  cases event with
  | provisioningChanged provisioned =>
    cases heffect <;>
      simp [Tells, Call.keyAnswer?, Provisioning.noted, Provisioning.learnt, Reset.scheduled]
  | accountKeyWritten =>
    cases heffect <;> simp [Tells, Call.keyAnswer?, Provisioning.learnt, Reset.scheduled]
  | readModeExited mode =>
    have hleft : TimedMode.Left (.ofReadMode mode)
        { before with timers := before.timers.withDeadline (Mode.ofReadMode mode).timer none }
        calls result after := heffect
    exact hleft.tells_keyPresent
  | clockSynced => cases heffect <;> rfl
  | commandReceived command => cases heffect <;> rfl
  | requested request => exact TimedMode.Entered.tells_keyPresent heffect
  | timerExpired timer =>
    cases hmode : Mode.ofTimer timer with
    | some mode =>
      simp only [Effect, hmode] at heffect
      exact heffect.tells_keyPresent
    | none =>
      simp only [Effect, hmode] at heffect
      exact heffect.tells_keyPresent

/-- An event that learns nothing of the keys, without a question failing, schedules no reset. -/
theorem Engine.Effect.pending_of_unasked {event : Event}
    (heffect : Effect config before event calls result after)
    (hunasked : Call.last Call.keyAnswer? calls = none)
    (hanswered : ∀ reason, .holdsKey (.error reason) ∉ calls)
    (hnone : before.ledger.pending = none) : after.ledger.pending = none := by
  cases event with
  | provisioningChanged provisioned =>
    cases heffect with
    | queryFailed reason => exact absurd (by simp) (hanswered reason)
    | _ => simp [Call.keyAnswer?] at hunasked
  | accountKeyWritten =>
    cases heffect with
    | notAdvertised reason => exact hnone
    | firstNotQueried reason hkey hroom => exact absurd (by simp) (hanswered reason)
    | laterNotQueried reason hkey => exact absurd (by simp) (hanswered reason)
    | tooLate hkey hlate => exact hnone
    | _ => simp [Call.keyAnswer?] at hunasked
  | timerExpired timer =>
    have hpending : after.ledger.pending = _ := congrArg Prod.fst heffect.reset_timerExpired.1
    rw [hpending, hnone, ite_self]
  | _ =>
    have hreset := heffect.reset_other (by simp) (by simp) (by simp)
    exact (congrArg Prod.fst hreset).trans hnone

/-- Nothing is pending while a key is remembered that is gone. -/
def Memory.Settled (stored : Bool) (memory : Memory) : Prop :=
  memory.ledger.keyPresent = true → stored = false → memory.ledger.pending = none

/-- A key that is gone and still remembered was taken by a reset, and no reset is scheduled until
the keys are asked for again. -/
theorem Engine.Effect.settled {event : Event}
    (heffect : Effect config before event calls result after) (hlife : KeyLife stored calls final)
    (hsettled : before.Settled stored) : after.Settled final := by
  intro hpresent hgone
  subst hgone
  have htells := heffect.tells_keyPresent
  unfold Tells at htells
  by_cases hexpiry : event = .timerExpired .factoryReset
  · subst hexpiry
    have hpending : after.ledger.pending = _ := congrArg Prod.fst heffect.reset_timerExpired.1
    simpa using hpending
  · have hreset := heffect.countP_isReset hexpiry
    cases hlast : Call.last Call.keyAnswer? calls with
    | some answer =>
      -- what has just been asked for is still there
      rw [hlast, Option.getD_some, hpresent] at htells
      obtain ⟨earlier, since, hcalls, -⟩ := Call.split_of_last_keyAnswer hlast
      have hasked : .holdsKey (.ok answer) ∈ calls := by simp [hcalls]
      cases (hlife.between hreset hasked).2 htells
    | none =>
      rw [hlast, Option.getD_none, hpresent] at htells
      exact heffect.pending_of_unasked hlast hlife.answered (hsettled htells (hlife.gone hreset))

theorem Engine.Deliveries.tells_keyPresent {events : List Event} {handlings : List Handling}
    (hdeliveries : Deliveries config before events handlings calls after) :
    Tells Call.keyAnswer? Ledger.keyPresent before.ledger calls after.ledger := by
  induction hdeliveries with
  | nil => rfl
  | cons heffect hrest ih => exact heffect.tells_keyPresent.append ih

theorem Engine.Deliveries.settled {events : List Event} {handlings : List Handling}
    (hdeliveries : Deliveries config before events handlings calls after)
    (hlife : KeyLife stored calls final) (hsettled : before.Settled stored) :
    after.Settled final := by
  induction hdeliveries generalizing stored with
  | nil =>
    intro hpresent hgone
    subst hgone
    exact hsettled hpresent (hlife.gone rfl)
  | cons heffect hrest ih =>
    obtain ⟨middle, hfirst, hlater⟩ := hlife.append_inv
    exact ih hlater (heffect.settled hfirst hsettled)

end Effects

/-! ### Whole runs -/

namespace Engine

variable {σ : Type}

theorem Moved.tells_keyPresent {config : Config} {before after : Memory} {move : Move σ}
    {handlings : List Handling} {calls : List Call}
    (hmoved : Moved config before move handlings calls after) :
    Tells Call.keyAnswer? Ledger.keyPresent before.ledger calls after.ledger := by
  cases hmoved with
  | event heffect => exact heffect.tells_keyPresent
  | advance hdeliveries => exact hdeliveries.tells_keyPresent
  | outside => rfl

theorem Moved.settled {config : Config} {before after : Memory} {move : Move σ}
    {handlings : List Handling} {calls : List Call} {stored final : Bool}
    (hmoved : Moved config before move handlings calls after) (hlife : KeyLife stored calls final)
    (hsettled : before.Settled stored) : after.Settled final := by
  cases hmoved with
  | event heffect => exact heffect.settled hlife hsettled
  | advance hdeliveries => exact hdeliveries.settled hlife hsettled
  | outside =>
    intro hpresent hgone
    subst hgone
    exact hsettled hpresent (hlife.gone rfl)

theorem keyPresent_eq_last_answer [Device σ] {config : Config} {start : Instant} {device : σ}
    {moves : List (Move σ)} {run : Run (Tag σ) (Move σ)}
    (hfollow : Run.follow (perform config) (.powerOn start device) moves = .ok run) :
    run.state.ledger.keyPresent =
      (Call.last Call.keyAnswer? (Trace.calls run.trace)).getD false := by
  have htells : Tells Call.keyAnswer? Ledger.keyPresent {} (Trace.calls run.trace)
      run.state.ledger := by
    refine Run.follow_induction hfollow (motive := fun run ↦
      Tells Call.keyAnswer? Ledger.keyPresent {} (Trace.calls run.trace) run.state.ledger) ?_ ?_
    · rfl
    · intro earlier move trace after hearlier _ hrun
      rw [Run.trace_append, Trace.calls_append]
      exact hearlier.append (perform_eq_ok hrun).tells_keyPresent
  exact htells.symm

theorem settled_of_follow [Device σ] {config : Config} {start : Instant} {device : σ}
    {moves : List (Move σ)} {run : Run (Tag σ) (Move σ)} {stored : Bool}
    (hfollow : Run.follow (perform config) (.powerOn start device) moves = .ok run)
    (hlife : KeyLife false (Trace.calls run.trace) stored) : run.state.Settled stored := by
  refine Run.follow_induction hfollow (motive := fun run ↦ ∀ stored,
    KeyLife false (Trace.calls run.trace) stored → run.state.Settled stored) ?_ ?_ stored hlife
  · intro stored _ hpresent
    cases hpresent
  · intro earlier move trace after hearlier _ hrun stored hlife
    rw [Run.trace_append, Trace.calls_append] at hlife
    obtain ⟨middle, hbefore, hstep⟩ := hlife.append_inv
    exact (perform_eq_ok hrun).settled hstep (hearlier middle hbefore)

/-- The calls made in steps, in order. -/
def callsIn (steps : List (Step (Tag σ) (Move σ))) : List Call :=
  Trace.calls (steps.flatMap (·.trace))

/-- Let an account key be written to a store that holds none, and its event take the tag out of the
pairing advertisement. Then provisioning must be completed in time, unless keys were stored when
they were last asked for and a reset has erased them since: then no reset is pending at all. Keys
may arrive at any moment, and nothing is assumed of the other events and directions. -/
theorem first_key_awaits_provisioning_iff [Device σ] (config : Config) (start : Instant)
    (device : σ) (moves : List (Move σ)) (run : Run (Tag σ) (Move σ))
    (hfollow : Run.follow (perform config) (.powerOn start device) moves = .ok run)
    (earlier later : List (Step (Tag σ) (Move σ))) (written : Step (Tag σ) (Move σ))
    (hsteps : run.steps = earlier ++ written :: later)
    (hwritten : written.move = .event .accountKeyWritten)
    (hadvertised : (Trace.calls written.trace).any Call.isAdvertised = true)
    (hlife : KeyLife false (callsIn earlier) false) :
    (written.after.reset = (some .provisioningTimeout,
        some (written.before.timers.now + config.provisioningLimit)) ↔
      ¬Call.Outdated (callsIn earlier)) ∧
    (Call.Outdated (callsIn earlier) → written.after.ledger.pending = none) := by
  obtain ⟨⟨shorter, -, hshorter⟩, -, hperform⟩ := Run.follow_before_step hfollow hsteps
  have hmoved := perform_eq_ok hperform
  rw [hwritten] at hmoved
  obtain ⟨outcome, heffect⟩ := hmoved.effect
  have hreset := Provisioning.KeyWritten.reset heffect
  rw [hadvertised, Bool.true_and] at hreset
  have hremembered : written.before.ledger.keyPresent =
      (Call.last Call.keyAnswer? (callsIn earlier)).getD false :=
    keyPresent_eq_last_answer hshorter
  by_cases houtdated : Call.Outdated (callsIn earlier)
  · rw [(Call.outdated_iff_of_gone hlife).mp houtdated, Option.getD_some] at hremembered
    have hbefore : written.before.ledger.pending = none :=
      settled_of_follow hshorter hlife hremembered rfl
    rw [hremembered] at hreset
    have hnone : written.after.ledger.pending = none := (congrArg Prod.fst hreset).trans hbefore
    refine ⟨⟨fun hawaits ↦ ?_, fun hfresh ↦ absurd houtdated hfresh⟩, fun _ ↦ hnone⟩
    have hsome : written.after.ledger.pending = _ := congrArg Prod.fst hawaits
    rw [hnone] at hsome
    cases hsome
  · have hforgotten : written.before.ledger.keyPresent = false := by
      rw [Call.outdated_iff_of_gone hlife] at houtdated
      rw [hremembered]
      cases hlast : Call.last Call.keyAnswer? (callsIn earlier) with
      | none => rfl
      | some answer => simpa [hlast] using houtdated
    rw [hforgotten] at hreset
    exact ⟨iff_of_true hreset houtdated, fun hout ↦ absurd hout houtdated⟩

/-- A first key goes unreported as provisioned until its time is over and a reset takes it; a report
finds the store empty, and the next first key has its time again. -/
theorem second_first_key_awaits_provisioning :
    ∃ run, Run.follow (perform {}) (.powerOn 0 ({} : Bench))
        [.outside fun bench ↦ { bench with key := true }, .event .accountKeyWritten,
          .advance 300000000, .event (.provisioningChanged false),
          .outside fun bench ↦ { bench with key := true }, .event .accountKeyWritten] = .ok run ∧
      ∃ earlier written, run.steps = earlier ++ [written] ∧
        written.move = .event .accountKeyWritten ∧
        (Trace.calls written.trace).any Call.isAdvertised = true ∧
        KeyLife false (callsIn earlier) false ∧
        (written.after.reset = (some .provisioningTimeout,
            some (written.before.timers.now + ({} : Config).provisioningLimit)) ↔
          ¬Call.Outdated (callsIn earlier)) ∧
        (Call.Outdated (callsIn earlier) → written.after.ledger.pending = none) := by
  obtain ⟨run, hrun, earlier, written, hsteps, hwritten, hadvertised, hcalls⟩ : ∃ run,
      Run.follow (perform {}) (.powerOn 0 ({} : Bench))
        [.outside fun bench ↦ { bench with key := true }, .event .accountKeyWritten,
          .advance 300000000, .event (.provisioningChanged false),
          .outside fun bench ↦ { bench with key := true }, .event .accountKeyWritten] = .ok run ∧
      ∃ earlier written, run.steps = earlier ++ [written] ∧
        written.move = .event .accountKeyWritten ∧
        (Trace.calls written.trace).any Call.isAdvertised = true ∧
        callsIn earlier =
          [.advertise .notDiscoverable (.ok ()), .suspendRotation true, .holdsKey (.ok true),
            .factoryReset (.ok ()), .suspendRotation false, .indicate .provisioned false,
            .holdsKey (.ok false)] :=
    ⟨_, rfl, [_, _, _, _, _], _, rfl, rfl, rfl, rfl⟩
  have hlife : KeyLife false (callsIn earlier) false := by
    rw [hcalls]
    exact .cons id (.other rfl) <| .cons id (.other rfl) <| .cons (fun _ ↦ rfl) .asked <|
      .cons id .erased <| .cons id (.other rfl) <| .cons id (.other rfl) <| .cons id .asked <|
      .nil id
  exact ⟨run, hrun, earlier, written, hsteps, hwritten, hadvertised, hlife,
    first_key_awaits_provisioning_iff {} 0 _ _ run hrun earlier [] written hsteps hwritten
      hadvertised hlife⟩

/-- The same without the report between the reset and the next key. Every direction succeeds, the
store is empty before the key is written and the tag is not provisioned, but no reset is pending. -/
theorem key_after_reset_awaits_nothing :
    ∃ run, Run.follow (perform {}) (.powerOn 0 ({} : Bench))
        [.outside fun bench ↦ { bench with key := true }, .event .accountKeyWritten,
          .advance 300000000, .outside fun bench ↦ { bench with key := true },
          .event .accountKeyWritten] = .ok run ∧
      (Trace.calls run.trace).all Call.succeeded = true ∧
      ∃ earlier arrival written, run.steps = earlier ++ [arrival, written] ∧
        arrival.before.device.key = false ∧ written.move = .event .accountKeyWritten ∧
        written.before.device.key = true ∧ written.before.ledger.provisioned = false ∧
        written.after.reset = (none, none) :=
  ⟨_, rfl, by decide +kernel, [_, _, _], _, _, rfl, rfl, rfl, rfl, rfl, by decide +kernel⟩

end Engine

end TagControl
