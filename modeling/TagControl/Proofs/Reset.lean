import TagControl.Proofs.Handler
import TagControl.Reset
/-!
What the operations on the pending reset do. Scheduling and withdrawing write the cause and the
deadline together. Running the reset clears the cause first and calls for a reset exactly when one
was pending, so `Expired` leaves nothing pending whatever the device answers.
-/

set_option autoImplicit false

namespace TagControl.Reset

open Handler

variable {σ : Type}

def scheduled (memory : Memory) (cause : ResetCause) (reached : Instant) : Memory :=
  { memory with
    ledger := { memory.ledger with pending := some cause }
    timers := memory.timers.withDeadline .factoryReset (some reached) }

def withdrawn (memory : Memory) : Memory :=
  { memory with
    ledger := { memory.ledger with pending := none }
    timers := memory.timers.withDeadline .factoryReset none }

theorem ends_schedule {tag : Tag σ} {cause : ResetCause} {delay : Duration}
    {post : List Call → Except (Stop HandlingError) Unit → Tag σ → Prop}
    (hscheduled : tag.timers.now + delay < Instant.limit → post [] (.ok ())
      { tag with toMemory := scheduled tag.toMemory cause (tag.timers.now + delay) })
    (hlate : Instant.limit ≤ tag.timers.now + delay →
      post [] (.error (.clockOverflow .pastLastInstant)) tag) :
    Ends (schedule cause delay) tag post := by
  have harm : Ends (do
      arm .factoryReset delay
      modifyLedger fun ledger ↦ { ledger with pending := some cause }
      Log.info ("FactoryReset: scheduled in " ++ toString delay.seconds ++ " s (" ++ cause.name ++
        ")")) tag post := by
    simp only [ends_bind]
    refine ends_arm (fun hroom ↦ ?_) (fun hroom ↦ hlate hroom)
    simpa [scheduled] using hscheduled hroom
  unfold schedule
  rw [ends_bind, ends_ledger]
  cases hpending : tag.ledger.pending with
  | none => simpa [hpending] using harm
  | some previous => simpa [hpending] using harm

@[simp] theorem ends_withdraw {tag : Tag σ}
    {post : List Call → Except (Stop HandlingError) Unit → Tag σ → Prop} :
    Ends withdraw tag post ↔
      post [] (.ok ()) { tag with toMemory := withdrawn tag.toMemory } := by
  unfold withdraw
  cases hpending : tag.ledger.pending with
  | none => cases harmed : tag.timers.isArmed .factoryReset <;> simp [hpending, harmed, withdrawn]
  | some cause => simp [hpending, withdrawn]

inductive Expired (before : Memory) :
    List Call → Except HandlingError (Option ResetCause) → Memory → Prop
  | idle (hpending : before.ledger.pending = none) : Expired before [] (.ok none) before
  | done {cause : ResetCause} (hpending : before.ledger.pending = some cause) :
    Expired before [.factoryReset (.ok ())] (.ok (some cause))
      { before with
        ledger := { before.ledger with pending := none, resetDone := true }
        resets := before.resets.countExecuted }
  | failed {cause : ResetCause} {reason : DeviceError}
      (hpending : before.ledger.pending = some cause) :
    Expired before [.factoryReset (.error reason)] (.error (.resetFailed cause reason))
      { before with
        ledger := { before.ledger with pending := none }
        resets := before.resets.countFailed }

theorem ends_expire [Device σ] {tag : Tag σ} :
    Ends expire tag fun calls result after ↦
      ∃ answer, result = .ok answer ∧ Expired tag.toMemory calls answer after.toMemory := by
  unfold expire
  rw [ends_bind, ends_ledger]
  cases hpending : tag.ledger.pending with
  | none =>
    simp only [hpending, ends_bind, ends_warn, ends_pure]
    exact ⟨_, rfl, .idle hpending⟩
  | some cause =>
    simp only [hpending, ends_bind, ends_modifyLedger, ends_info]
    refine ends_factoryReset fun answer device ↦ ?_
    cases answer with
    | ok _ =>
      simp only [ends_bind, ends_modifyResets, ends_modifyLedger, ends_info, ends_pure]
      exact ⟨_, rfl, .done hpending⟩
    | error reason =>
      simp only [ends_bind, ends_modifyResets, ends_error, ends_pure]
      exact ⟨_, rfl, .failed hpending⟩

end TagControl.Reset
