import TagControl.Proofs.Reset
import TagControl.Provisioning
/-!
What the events of provisioning do: a reported provisioning state (`Reported`), a written account
key (`KeyWritten`) and a synchronised clock (`ClockSynced`). Each relation lists the ways in which
the event can end, with the calls made on the way, the result and the memory left behind. A query
of the keys that fails leaves the remembered answer as it was.
-/

set_option autoImplicit false

namespace TagControl.Provisioning

open Handler

variable {σ : Type}

def queryFailed (reason : DeviceError) : Stop HandlingError :=
  .failed (.stepFailed "query account key" reason)

def advertisingFailed (reason : DeviceError) : Stop HandlingError :=
  .failed (.stepFailed "set advertising mode" reason)

def learnt (memory : Memory) (keyPresent : Bool) : Memory :=
  { memory with ledger := { memory.ledger with keyPresent } }

@[simp] theorem timers_learnt (memory : Memory) (keyPresent : Bool) :
    (learnt memory keyPresent).timers = memory.timers := rfl

@[simp] theorem pending_learnt (memory : Memory) (keyPresent : Bool) :
    (learnt memory keyPresent).ledger.pending = memory.ledger.pending := rfl

@[simp] theorem resetDone_learnt (memory : Memory) (keyPresent : Bool) :
    (learnt memory keyPresent).ledger.resetDone = memory.ledger.resetDone := rfl

@[simp] theorem firstCallback_learnt (memory : Memory) (keyPresent : Bool) :
    (learnt memory keyPresent).ledger.firstCallback = memory.ledger.firstCallback := rfl

/-- The direction to rotate the address again after a reset with this cause. -/
def resumption (cause : Option ResetCause) : List Call :=
  if cause = some .provisioningTimeout then [.suspendRotation false] else []

/-- Whether a report withdraws the pending reset: provisioning was completed in time. -/
def Withdraws (memory : Memory) (provisioned : Bool) : Prop :=
  provisioned = true ∧ memory.ledger.pending = some .provisioningTimeout

instance (memory : Memory) (provisioned : Bool) : Decidable (Withdraws memory provisioned) :=
  inferInstanceAs (Decidable (_ ∧ _))

/-- The memory once a report has been noted, before the keys are asked for. -/
def noted (memory : Memory) (provisioned : Bool) : Memory where
  ledger :=
    { memory.ledger with
      provisioned
      pending := if Withdraws memory provisioned then none else memory.ledger.pending }
  timers :=
    if Withdraws memory provisioned then memory.timers.withDeadline .factoryReset none
    else memory.timers
  resets := memory.resets

@[simp] theorem now_noted (memory : Memory) (provisioned : Bool) :
    (noted memory provisioned).timers.now = memory.timers.now := by
  unfold noted
  split <;> rfl

@[simp] theorem resetDone_noted (memory : Memory) (provisioned : Bool) :
    (noted memory provisioned).ledger.resetDone = memory.ledger.resetDone := rfl

@[simp] theorem firstCallback_noted (memory : Memory) (provisioned : Bool) :
    (noted memory provisioned).ledger.firstCallback = memory.ledger.firstCallback := rfl

/-- The calls made while a report is noted. -/
def noting (memory : Memory) (provisioned : Bool) : List Call :=
  .indicate .provisioned provisioned ::
    if Withdraws memory provisioned then [.suspendRotation false] else []

inductive Reported (config : Config) (provisioned : Bool) (before : Memory) :
    List Call → Except (Stop HandlingError) Unit → Memory → Prop
  | queryFailed (reason : DeviceError) :
    Reported config provisioned before (noting before provisioned ++ [.holdsKey (.error reason)])
      (.error (queryFailed reason)) (noted before provisioned)
  | mismatch (stopped : Except DeviceError Unit)
      (hroom : before.timers.now + config.mismatchDelay < Instant.limit) :
    Reported config provisioned before
      (noting before provisioned ++ [.holdsKey (.ok !provisioned), .advertise .off stopped] ++
        resumption (noted before provisioned).ledger.pending)
      (.ok ())
      (Reset.scheduled (learnt (noted before provisioned) !provisioned) .keyMismatch
        (before.timers.now + config.mismatchDelay))
  | tooLate (stopped : Except DeviceError Unit)
      (hlate : Instant.limit ≤ before.timers.now + config.mismatchDelay) :
    Reported config provisioned before
      (noting before provisioned ++ [.holdsKey (.ok !provisioned), .advertise .off stopped] ++
        resumption (noted before provisioned).ledger.pending)
      (.error (.clockOverflow .pastLastInstant)) (learnt (noted before provisioned) !provisioned)
  | afterReset (hdone : before.ledger.resetDone = true) :
    Reported config provisioned before (noting before provisioned ++ [.holdsKey (.ok provisioned)])
      (.ok ())
      { learnt (noted before provisioned) provisioned with
        ledger := { (learnt (noted before provisioned) provisioned).ledger with
          resetDone := false } }
  | advertised (hdone : before.ledger.resetDone = false) :
    Reported config provisioned before
      (noting before provisioned ++ [.holdsKey (.ok provisioned),
        .advertise (advertisingFor provisioned before.ledger.firstCallback) (.ok ())])
      (.ok ())
      { learnt (noted before provisioned) provisioned with
        ledger := { (learnt (noted before provisioned) provisioned).ledger with
          firstCallback := false } }
  | notAdvertised (reason : DeviceError) (hdone : before.ledger.resetDone = false) :
    Reported config provisioned before
      (noting before provisioned ++ [.holdsKey (.ok provisioned),
        .advertise (advertisingFor provisioned before.ledger.firstCallback) (.error reason)])
      (.error (advertisingFailed reason)) (learnt (noted before provisioned) provisioned)

inductive KeyWritten (config : Config) (before : Memory) :
    List Call → Except (Stop HandlingError) Unit → Memory → Prop
  | notAdvertised (reason : DeviceError) :
    KeyWritten config before [.advertise .notDiscoverable (.error reason)]
      (.error (advertisingFailed reason)) before
  | first (keyPresent : Bool) (hkey : before.ledger.keyPresent = false)
      (hroom : before.timers.now + config.provisioningLimit < Instant.limit) :
    KeyWritten config before
      [.advertise .notDiscoverable (.ok ()), .suspendRotation true, .holdsKey (.ok keyPresent)]
      (.ok ())
      (learnt (Reset.scheduled before .provisioningTimeout
        (before.timers.now + config.provisioningLimit)) keyPresent)
  | firstNotQueried (reason : DeviceError) (hkey : before.ledger.keyPresent = false)
      (hroom : before.timers.now + config.provisioningLimit < Instant.limit) :
    KeyWritten config before
      [.advertise .notDiscoverable (.ok ()), .suspendRotation true, .holdsKey (.error reason)]
      (.error (queryFailed reason))
      (Reset.scheduled before .provisioningTimeout
        (before.timers.now + config.provisioningLimit))
  | tooLate (hkey : before.ledger.keyPresent = false)
      (hlate : Instant.limit ≤ before.timers.now + config.provisioningLimit) :
    KeyWritten config before [.advertise .notDiscoverable (.ok ())]
      (.error (.clockOverflow .pastLastInstant)) before
  | later (keyPresent : Bool) (hkey : before.ledger.keyPresent = true) :
    KeyWritten config before [.advertise .notDiscoverable (.ok ()), .holdsKey (.ok keyPresent)]
      (.ok ()) (learnt before keyPresent)
  | laterNotQueried (reason : DeviceError) (hkey : before.ledger.keyPresent = true) :
    KeyWritten config before [.advertise .notDiscoverable (.ok ()), .holdsKey (.error reason)]
      (.error (queryFailed reason)) before

inductive ClockSynced (before : Memory) :
    List Call → Except (Stop HandlingError) Unit → Memory → Prop
  | idle (hprovisioned : before.ledger.provisioned = false) :
    ClockSynced before [] (.ok ()) before
  | stopped (hprovisioned : before.ledger.provisioned = true) :
    ClockSynced before [.advertise .off (.ok ())] (.ok ()) before
  | notStopped (reason : DeviceError) (hprovisioned : before.ledger.provisioned = true) :
    ClockSynced before [.advertise .off (.error reason)] (.error (advertisingFailed reason)) before

/-! ### The parts of the handlers -/

section Parts

variable [Device σ] {tag : Tag σ}

theorem ends_refreshKeyPresent
    {post : List Call → Except (Stop HandlingError) Bool → Tag σ → Prop}
    (hlearnt : ∀ keyPresent, post [.holdsKey (.ok keyPresent)] (.ok keyPresent)
      { tag with toMemory := learnt tag.toMemory keyPresent })
    (hfailed : ∀ reason, post [.holdsKey (.error reason)] (.error (queryFailed reason)) tag) :
    Ends refreshKeyPresent tag post := by
  unfold refreshKeyPresent
  rw [ends_bind]
  refine ends_holdsKey fun answer ↦ ?_
  cases answer with
  | ok keyPresent => simpa [learnt, Except.map] using hlearnt keyPresent
  | error reason => simpa [queryFailed] using hfailed reason

theorem ends_resumeRotationAfter {cause : Option ResetCause}
    {post : List Call → Except (Stop HandlingError) Unit → Tag σ → Prop}
    (hdone : ∀ device, post (resumption cause) (.ok ()) { tag with device }) :
    Ends (resumeRotationAfter cause) tag post := by
  unfold resumeRotationAfter
  rw [ends_ite]
  split
  · next hcause =>
    refine ends_suspendRotation fun device ↦ ?_
    simpa [resumption, hcause] using hdone device
  · next hcause => simpa [resumption, hcause] using hdone tag.device

theorem ends_scheduleMismatchReset {config : Config} {keyPresent provisioned : Bool}
    {post : List Call → Except (Stop HandlingError) Unit → Tag σ → Prop}
    (hscheduled : ∀ stopped device, tag.timers.now + config.mismatchDelay < Instant.limit →
      post ([.advertise .off stopped] ++ resumption tag.ledger.pending) (.ok ())
        { toMemory := Reset.scheduled tag.toMemory .keyMismatch
            (tag.timers.now + config.mismatchDelay)
          device })
    (hlate : ∀ stopped device, Instant.limit ≤ tag.timers.now + config.mismatchDelay →
      post ([.advertise .off stopped] ++ resumption tag.ledger.pending)
        (.error (.clockOverflow .pastLastInstant)) { tag with device }) :
    Ends (scheduleMismatchReset config keyPresent provisioned) tag post := by
  have hrest : ∀ stopped device, Ends (do
      resumeRotationAfter (← ledger).pending
      Reset.schedule .keyMismatch config.mismatchDelay : Handler σ Unit) { tag with device }
      fun calls result after ↦ post ([.advertise .off stopped] ++ calls) result after := by
    intro stopped device
    rw [ends_bind, ends_ledger]
    simp only [ends_bind]
    refine ends_resumeRotationAfter fun device ↦ ?_
    refine Reset.ends_schedule (fun hroom ↦ ?_) (fun hroom ↦ ?_)
    · simpa using hscheduled stopped device hroom
    · simpa using hlate stopped device hroom
  unfold scheduleMismatchReset
  simp only [ends_bind, ends_warn]
  refine ends_advertise fun stopped device ↦ ?_
  cases stopped with
  | ok _ => simpa using hrest (.ok ()) device
  | error reason => simpa using hrest (.error reason) device

theorem ends_selectAdvertising {provisioned : Bool}
    {post : List Call → Except (Stop HandlingError) Unit → Tag σ → Prop}
    (hadvertised : ∀ device, post
      [.advertise (advertisingFor provisioned tag.ledger.firstCallback) (.ok ())] (.ok ())
      { tag with device, ledger := { tag.ledger with firstCallback := false } })
    (hfailed : ∀ reason device, post
      [.advertise (advertisingFor provisioned tag.ledger.firstCallback) (.error reason)]
      (.error (advertisingFailed reason)) { tag with device }) :
    Ends (selectAdvertising provisioned) tag post := by
  unfold selectAdvertising
  rw [ends_bind, ends_ledger]
  simp only [ends_bind]
  refine ends_advertise fun answer device ↦ ?_
  cases answer with
  | ok _ => simpa using hadvertised device
  | error reason => simpa [advertisingFailed] using hfailed reason device

end Parts

/-! ### The handlers -/

section Handlers

variable [Device σ] {tag : Tag σ}

theorem ends_clockSynced :
    Ends clockSynced tag fun calls result after ↦
      ClockSynced tag.toMemory calls result after.toMemory := by
  unfold clockSynced
  rw [ends_bind, ends_ledger]
  cases hprovisioned : tag.ledger.provisioned with
  | false =>
    simpa [hprovisioned] using ClockSynced.idle hprovisioned
  | true =>
    simp only [hprovisioned, if_true, ends_bind, ends_info]
    refine ends_advertise fun answer device ↦ ?_
    cases answer with
    | ok _ => simpa using ClockSynced.stopped hprovisioned
    | error reason => simpa [advertisingFailed] using ClockSynced.notStopped reason hprovisioned

theorem ends_keyWritten {config : Config} :
    Ends (keyWritten config) tag fun calls result after ↦
      KeyWritten config tag.toMemory calls result after.toMemory := by
  unfold keyWritten
  simp only [ends_bind, ends_info]
  refine ends_advertise fun answer device ↦ ?_
  cases answer with
  | error reason => simpa [advertisingFailed] using KeyWritten.notAdvertised reason
  | ok _ =>
    simp only [ends_bind, ends_ledger]
    cases hkey : tag.ledger.keyPresent with
    | true =>
      simp only [if_true, ends_bind]
      refine ends_refreshKeyPresent (fun keyPresent ↦ ?_) (fun reason ↦ ?_)
      · simpa using KeyWritten.later keyPresent hkey
      · simpa using KeyWritten.laterNotQueried reason hkey
    | false =>
      simp only [Bool.false_eq_true, if_false, ends_bind]
      refine Reset.ends_schedule (fun hroom ↦ ?_) (fun hroom ↦ ?_)
      · refine ends_suspendRotation fun device ↦ ?_
        refine ends_refreshKeyPresent (fun keyPresent ↦ ?_) (fun reason ↦ ?_)
        · simpa using KeyWritten.first keyPresent hkey hroom
        · simpa using KeyWritten.firstNotQueried reason hkey hroom
      · simpa using KeyWritten.tooLate hkey hroom

/-- Noting a report comes before everything else in its handling. -/
theorem ends_noting {provisioned : Bool} {next : Handler σ Unit}
    {post : List Call → Except (Stop HandlingError) Unit → Tag σ → Prop}
    (hnext : ∀ device, Ends next { toMemory := noted tag.toMemory provisioned, device }
      fun calls result after ↦ post (noting tag.toMemory provisioned ++ calls) result after) :
    Ends (do
      Log.info ("Mode: provisioning state changed: " ++ stateName provisioned)
      indicate .provisioned provisioned
      modifyLedger fun ledger ↦ { ledger with provisioned }
      if provisioned ∧ (← ledger).pending = some .provisioningTimeout then
        Reset.withdraw
        suspendRotation false
      next) tag post := by
  simp only [ends_bind, ends_info]
  refine ends_indicate fun device ↦ ?_
  simp only [ends_modifyLedger, ends_ledger]
  by_cases hwithdraws : Withdraws tag.toMemory provisioned
  · have hboth : provisioned = true ∧ tag.ledger.pending = some .provisioningTimeout := hwithdraws
    obtain ⟨rfl, hpending⟩ := hboth
    simp only [hpending, and_self, if_true, ends_bind, Reset.ends_withdraw]
    refine ends_suspendRotation fun device ↦ ?_
    simpa [noted, noting, hwithdraws, Reset.withdrawn] using hnext device
  · have hnot : ¬(provisioned = true ∧ tag.ledger.pending = some .provisioningTimeout) := hwithdraws
    simp only [hnot, if_false]
    simpa [noted, noting, hwithdraws] using hnext device

theorem ends_stateReported {config : Config} {provisioned : Bool} :
    Ends (stateReported config provisioned) tag fun calls result after ↦
      Reported config provisioned tag.toMemory calls result after.toMemory := by
  unfold stateReported
  refine ends_noting fun device ↦ ?_
  rw [ends_bind]
  refine ends_refreshKeyPresent (fun keyPresent ↦ ?_) (fun reason ↦ ?_)
  · by_cases hagree : keyPresent = provisioned
    · subst hagree
      simp only [ne_eq, not_true_eq_false, if_false, ends_bind, ends_ledger]
      cases hdone : tag.ledger.resetDone with
      | true =>
        simpa [hdone] using Reported.afterReset hdone
      | false =>
        simp only [resetDone_learnt, resetDone_noted, hdone, Bool.false_eq_true, if_false]
        refine ends_selectAdvertising (fun device ↦ ?_) (fun reason device ↦ ?_)
        · simpa using Reported.advertised hdone
        · simpa using Reported.notAdvertised reason hdone
    · have hnegated : keyPresent = !provisioned := Bool.eq_not.mpr hagree
      subst hnegated
      simp only [ne_eq, hagree, not_false_eq_true, if_true]
      refine ends_scheduleMismatchReset (fun stopped device hroom ↦ ?_)
        (fun stopped device hroom ↦ ?_)
      · rw [timers_learnt, now_noted] at hroom
        simpa using Reported.mismatch stopped hroom
      · rw [timers_learnt, now_noted] at hroom
        simpa using Reported.tooLate stopped hroom
  · simpa using Reported.queryFailed reason

end Handlers

end TagControl.Provisioning
