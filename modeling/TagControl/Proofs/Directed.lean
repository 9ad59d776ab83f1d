import TagControl.Bench
import TagControl.Proofs.Turns
import TagControl.Proofs.Windows
/-!
What the device was told last, and what the ledger says. Four kinds of directions keep the device
informed of the ledger: whether the address stands still, which conditions are shown, and whether
the update transport is offered. Each event gives such a direction exactly when it changes what the
direction tells, and with the value that it leaves (`Engine.Informs`); an event that is abandoned
midway has given the directions for all that it changed. So along any run the last direction of each
kind is what the ledger says.
-/

set_option autoImplicit false

namespace TagControl

namespace Call

def rotation? : Call → Option Bool
  | suspendRotation suspend => some suspend
  | _ => none

def shown? (condition : Indication) : Call → Option Bool
  | indicate state active => if state = condition then some active else none
  | _ => none

def offer? : Call → Option Bool
  | offerUpdates offer => some offer
  | _ => none

/-- The last direction of a kind among calls made one after the other. -/
def last (kind : Call → Option Bool) (calls : List Call) : Option Bool :=
  (calls.filterMap kind).getLast?

variable (kind : Call → Option Bool)

@[simp] theorem last_nil : last kind [] = none := rfl

@[simp] theorem last_cons (call : Call) (calls : List Call) :
    last kind (call :: calls) = (last kind calls).or (kind call) := by
  unfold last
  cases hcall : kind call with
  | none => simp [hcall]
  | some told =>
    cases hlater : (calls.filterMap kind).getLast? <;> simp [hcall, hlater, List.getLast?_cons]

@[simp] theorem last_append (first second : List Call) :
    last kind (first ++ second) = (last kind second).or (last kind first) := by
  simp [last, List.getLast?_append]

end Call

/-- Whether a reset is pending for want of provisioning. -/
def Ledger.awaitsProvisioning (ledger : Ledger) : Bool :=
  ledger.pending = some .provisioningTimeout

namespace Engine

/-- The calls tell of a flag what it has become, or nothing if it stays. -/
def Tells (kind : Call → Option Bool) (flag : Ledger → Bool) (before : Ledger) (calls : List Call)
    (after : Ledger) : Prop :=
  (Call.last kind calls).getD (flag before) = flag after

/-- The calls tell of all that changes in the ledger. -/
structure Informs (before : Ledger) (calls : List Call) (after : Ledger) : Prop where
  rotation : Tells Call.rotation? Ledger.awaitsProvisioning before calls after
  provisioned : Tells (Call.shown? .provisioned) Ledger.provisioned before calls after
  active : ∀ mode : Mode,
    Tells (Call.shown? mode.indication) (Ledger.isActive · mode) before calls after
  offer : Tells Call.offer? Ledger.dfu before calls after

variable {before middle after : Ledger} {first second : List Call}

theorem Tells.append {kind : Call → Option Bool} {flag : Ledger → Bool}
    (hfirst : Tells kind flag before first middle) (hsecond : Tells kind flag middle second after) :
    Tells kind flag before (first ++ second) after := by
  unfold Tells at *
  rw [Call.last_append, ← hsecond, ← hfirst]
  cases Call.last kind second <;> rfl

theorem Informs.append (hfirst : Informs before first middle)
    (hsecond : Informs middle second after) : Informs before (first ++ second) after where
  rotation := hfirst.rotation.append hsecond.rotation
  provisioned := hfirst.provisioned.append hsecond.provisioned
  active mode := (hfirst.active mode).append (hsecond.active mode)
  offer := hfirst.offer.append hsecond.offer

/-- What the ledger says besides the pending reset. -/
def shown (ledger : Ledger) : Bool × (Mode → Bool) :=
  (ledger.provisioned, ledger.isActive)

theorem dfu_eq_of_shown (hshown : shown after = shown before) : after.dfu = before.dfu :=
  congrFun (congrArg Prod.snd hshown) .dfu

/-- Whether a call is none of the directions that tell of the ledger. -/
def isQuiet : Call → Bool
  | .suspendRotation _ => false
  | .offerUpdates _ => false
  | .indicate _ _ => false
  | _ => true

theorem last_of_isQuiet {kind : Call → Option Bool} {calls : List Call}
    (hkind : ∀ call, isQuiet call = true → kind call = none) (hquiet : calls.all isQuiet = true) :
    Call.last kind calls = none := by
  have hnone : calls.filterMap kind = [] := by
    rw [List.filterMap_eq_nil_iff]
    exact fun call hcall ↦ hkind call (List.all_eq_true.mp hquiet call hcall)
  rw [Call.last, hnone]
  rfl

/-- Where nothing is told, nothing may change. -/
theorem informs_of_isQuiet {calls : List Call} (hquiet : calls.all isQuiet = true)
    (hawaits : after.awaitsProvisioning = before.awaitsProvisioning)
    (hshown : shown after = shown before) : Informs before calls after where
  rotation := by
    rw [Tells, last_of_isQuiet (fun call ↦ by cases call <;> simp [isQuiet, Call.rotation?]) hquiet]
    exact hawaits.symm
  provisioned := by
    rw [Tells, last_of_isQuiet (fun call ↦ by cases call <;> simp [isQuiet, Call.shown?]) hquiet]
    exact (congrArg Prod.fst hshown).symm
  active mode := by
    rw [Tells, last_of_isQuiet (fun call ↦ by cases call <;> simp [isQuiet, Call.shown?]) hquiet]
    exact (congrFun (congrArg Prod.snd hshown) mode).symm
  offer := by
    rw [Tells, last_of_isQuiet (fun call ↦ by cases call <;> simp [isQuiet, Call.offer?]) hquiet]
    exact (dfu_eq_of_shown hshown).symm

/-- The rotation is directed exactly as the pending reset will have it. -/
theorem informs_suspendRotation {suspend : Bool} (hawaits : after.awaitsProvisioning = suspend)
    (hshown : shown after = shown before) :
    Informs before [.suspendRotation suspend] after where
  rotation := hawaits.symm
  provisioned := (congrArg Prod.fst hshown).symm
  active mode := (congrFun (congrArg Prod.snd hshown) mode).symm
  offer := (dfu_eq_of_shown hshown).symm

theorem informs_resumption (hawaits : after.awaitsProvisioning = false)
    (hshown : shown after = shown before) :
    Informs before (Provisioning.resumption before.pending) after := by
  unfold Provisioning.resumption
  by_cases hpending : before.pending = some .provisioningTimeout
  · rw [if_pos hpending]
    exact informs_suspendRotation hawaits hshown
  · rw [if_neg hpending]
    refine informs_of_isQuiet rfl ?_ hshown
    rw [hawaits, Ledger.awaitsProvisioning, decide_eq_false hpending]

end Engine

/-! ### Events -/

section Effects

variable {config : Config} {before after : Memory} {calls : List Call}
  {outcome : Except HandlingError Unit}

open Engine

theorem Provisioning.informs_noting (memory : Memory) (provisioned : Bool) :
    Informs memory.ledger (noting memory provisioned) (noted memory provisioned).ledger := by
  have hreported : Informs memory.ledger [.indicate .provisioned provisioned]
      { memory.ledger with provisioned } :=
    ⟨rfl, rfl, fun mode ↦ by cases mode <;> rfl, rfl⟩
  unfold noting noted
  by_cases hwithdraws : Withdraws memory provisioned
  · rw [if_pos hwithdraws, if_pos hwithdraws]
    exact hreported.append (informs_suspendRotation rfl rfl)
  · rw [if_neg hwithdraws, if_neg hwithdraws]
    exact hreported

theorem Provisioning.Reported.informs {provisioned : Bool}
    (hreported : Reported config provisioned before calls (outcome.mapError .failed) after) :
    Informs before.ledger calls after.ledger := by
  have hnoted := informs_noting before provisioned
  generalize hresult : outcome.mapError Stop.failed = result at hreported
  cases hreported with
  | queryFailed reason => exact hnoted.append (informs_of_isQuiet rfl rfl rfl)
  | mismatch stopped hroom =>
    have hasked : Informs (noted before provisioned).ledger
        [.holdsKey (.ok !provisioned), .advertise .off stopped] (noted before provisioned).ledger :=
      informs_of_isQuiet rfl rfl rfl
    exact (hnoted.append hasked).append (informs_resumption rfl rfl)
  | tooLate stopped hlate => cases outcome <;> cases hresult
  | afterReset hdone => exact hnoted.append (informs_of_isQuiet rfl rfl rfl)
  | advertised hdone => exact hnoted.append (informs_of_isQuiet rfl rfl rfl)
  | notAdvertised reason hdone => exact hnoted.append (informs_of_isQuiet rfl rfl rfl)

theorem Provisioning.KeyWritten.informs
    (hwritten : KeyWritten config before calls (outcome.mapError .failed) after) :
    Informs before.ledger calls after.ledger := by
  -- a first key makes the address stand still together with the reset it schedules
  have hfirst : ∀ reached, Informs before.ledger
      ([.advertise .notDiscoverable (.ok ())] ++ [.suspendRotation true])
      (Reset.scheduled before .provisioningTimeout reached).ledger := fun reached ↦
    (informs_of_isQuiet rfl rfl rfl).append (informs_suspendRotation rfl rfl)
  generalize hresult : outcome.mapError Stop.failed = result at hwritten
  cases hwritten with
  | notAdvertised reason => exact informs_of_isQuiet rfl rfl rfl
  | first keyPresent hkey hroom =>
    exact (hfirst (before.timers.now + config.provisioningLimit)).append
      (informs_of_isQuiet rfl rfl rfl)
  | firstNotQueried reason hkey hroom =>
    exact (hfirst (before.timers.now + config.provisioningLimit)).append
      (informs_of_isQuiet rfl rfl rfl)
  | tooLate hkey hlate => cases outcome <;> cases hresult
  | later keyPresent hkey => exact informs_of_isQuiet rfl rfl rfl
  | laterNotQueried reason hkey => exact informs_of_isQuiet rfl rfl rfl

theorem TimedMode.Entered.informs {mode : Mode}
    (hentered : Entered config mode before calls (outcome.mapError .failed) after) :
    Informs before.ledger calls after.ledger := by
  generalize hresult : outcome.mapError Stop.failed = result at hentered
  cases hentered with
  | refused hrefused => exact informs_of_isQuiet rfl rfl rfl
  | notOpened hallowed hfailed => cases hfailed <;> exact informs_of_isQuiet rfl rfl rfl
  | tooLate hallowed hlate => cases outcome <;> cases hresult
  | entered hallowed hroom =>
    cases mode <;> exact ⟨rfl, rfl, fun other ↦ by cases other <;> rfl, rfl⟩

theorem TimedMode.Left.informs {mode : Mode} {result : Except (Stop HandlingError) Unit}
    (hleft : Left mode before calls result after) :
    Informs before.ledger calls after.ledger := by
  cases hleft with
  | inactive hinactive => exact informs_of_isQuiet rfl rfl rfl
  | left stopped hactive =>
    cases mode <;> exact ⟨rfl, rfl, fun other ↦ by cases other <;> rfl, rfl⟩

theorem Engine.ResetExpired.informs {result : Except (Stop HandlingError) Unit}
    (hexpired : ResetExpired before calls result after) :
    Informs before.ledger calls after.ledger := by
  obtain ⟨hexpired⟩ := hexpired
  cases hexpired with
  | idle hpending =>
    refine informs_resumption ?_ rfl
    rw [Ledger.awaitsProvisioning, hpending]
    rfl
  | done hpending =>
    exact Informs.append (informs_of_isQuiet rfl rfl rfl) (informs_resumption rfl rfl)
  | failed hpending =>
    exact Informs.append (informs_of_isQuiet rfl rfl rfl) (informs_resumption rfl rfl)

/-- Whatever the event and however it ends, its calls tell of all that it changes. -/
theorem Engine.Effect.informs {event : Event}
    (heffect : Effect config before event calls (outcome.mapError .failed) after) :
    Informs before.ledger calls after.ledger := by
  cases event with
  | provisioningChanged provisioned => exact Provisioning.Reported.informs heffect
  | accountKeyWritten => exact Provisioning.KeyWritten.informs heffect
  | readModeExited mode =>
    -- the timer is cancelled first, which the ledger does not show
    have hleft : TimedMode.Left (.ofReadMode mode)
        { before with timers := before.timers.withDeadline (Mode.ofReadMode mode).timer none }
        calls (outcome.mapError .failed) after := heffect
    exact hleft.informs
  | clockSynced =>
    generalize outcome.mapError Stop.failed = result at heffect
    cases heffect <;> exact informs_of_isQuiet rfl rfl rfl
  | commandReceived command =>
    generalize outcome.mapError Stop.failed = result at heffect
    cases heffect <;> exact informs_of_isQuiet rfl rfl rfl
  | requested request => exact TimedMode.Entered.informs heffect
  | timerExpired timer =>
    cases hmode : Mode.ofTimer timer with
    | some mode =>
      simp only [Effect, hmode] at heffect
      exact heffect.informs
    | none =>
      simp only [Effect, hmode] at heffect
      exact heffect.informs

theorem Engine.Deliveries.informs {events : List Event} {handlings : List Handling}
    (hdeliveries : Deliveries config before events handlings calls after) :
    Informs before.ledger calls after.ledger := by
  induction hdeliveries with
  | nil => exact informs_of_isQuiet rfl rfl rfl
  | cons heffect hrest ih => exact heffect.informs.append ih

end Effects

namespace Controller

variable {σ : Type}

theorem Turned.informs {before after : Controller σ} {calls : List Call}
    (hturned : Turned before calls after) :
    Engine.Informs before.tag.ledger calls after.tag.ledger := by
  obtain ⟨timers, events, handlings, hdeliveries⟩ := hturned.deliveries
  exact hdeliveries.informs

/-- Over a whole run from power-on, the address stands still, as the device was told last, exactly
while a reset is pending for want of provisioning. Nothing is assumed of the events, of the answers
to any direction, or of when the timers are told the time. -/
theorem rotation_suspended_iff_timeout_pending [Device σ] (config : Config) (start : Instant)
    (bringUp : Traced Line σ) (turns : List (Turn σ)) (run : Run (Controller σ) (Turn σ))
    (hfollow : Run.follow take (powerOn config start bringUp).value turns = .ok run) :
    (Call.last Call.rotation? (Trace.calls run.trace)).getD false = true ↔
      run.state.tag.ledger.pending = some .provisioningTimeout := by
  have hinforms : Engine.Informs {} (Trace.calls run.trace) run.state.tag.ledger := by
    refine Run.follow_induction hfollow
      (motive := fun run ↦ Engine.Informs {} (Trace.calls run.trace) run.state.tag.ledger)
      (Engine.informs_of_isQuiet rfl rfl rfl) ?_
    intro earlier turn trace after hearlier _ hrun
    rw [Run.trace_append, Trace.calls_append]
    exact hearlier.append (take_eq_ok hrun).informs
  have htold : (Call.last Call.rotation? (Trace.calls run.trace)).getD false =
      run.state.tag.ledger.awaitsProvisioning := hinforms.rotation
  rw [htold, Ledger.awaitsProvisioning, decide_eq_true_eq]

/-- A first key whose event is abandoned because the keys cannot be asked for, and a forged expiry:
the address stands still, and the reset is pending. -/
theorem rotation_suspended_by_abandoned_event :
    ∃ run, Run.follow take (powerOn {} 0 (pure ({ keyFault := some .io } : Bench))).value
        [.event .accountKeyWritten, .event (.timerExpired .recovery)] = .ok run ∧
      (Trace.handlings run.trace).map (·.outcome) =
        [.error (.stepFailed "query account key" .io), .ok ()] ∧
      run.state.tag.ledger.pending = some .provisioningTimeout ∧
      ((Call.last Call.rotation? (Trace.calls run.trace)).getD false = true ↔
        run.state.tag.ledger.pending = some .provisioningTimeout) := by
  obtain ⟨run, hrun, houtcomes, hpending⟩ : ∃ run,
      Run.follow take (powerOn {} 0 (pure ({ keyFault := some .io } : Bench))).value
        [.event .accountKeyWritten, .event (.timerExpired .recovery)] = .ok run ∧
      (Trace.handlings run.trace).map (·.outcome) =
        [.error (.stepFailed "query account key" .io), .ok ()] ∧
      run.state.tag.ledger.pending = some .provisioningTimeout :=
    ⟨_, rfl, rfl, rfl⟩
  exact ⟨run, hrun, houtcomes, hpending,
    rotation_suspended_iff_timeout_pending {} 0 _ _ run hrun⟩

end Controller

end TagControl
