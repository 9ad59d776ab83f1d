import TagControl.Handler
/-!
The pending factory reset: its cause in the ledger and its deadline in the timer table, written
together. Scheduling replaces a pending reset and restarts the delay. The cause is cleared before
the reset runs, so a reset that fails is not tried again.
-/

set_option autoImplicit false

namespace TagControl.Reset

open Handler

variable {σ : Type}

def schedule (cause : ResetCause) (delay : Duration) : Handler σ Unit := do
  if let some previous := (← ledger).pending then
    Log.info ("FactoryReset: replacing pending reset (" ++ previous.name ++ ") with " ++ cause.name)
  arm .factoryReset delay
  modifyLedger fun ledger ↦ { ledger with pending := some cause }
  Log.info ("FactoryReset: scheduled in " ++ toString delay.seconds ++ " s (" ++ cause.name ++ ")")

/-- Withdraws the pending reset, if there is one. -/
def withdraw : Handler σ Unit := do
  let wasArmed ← cancel .factoryReset
  match (← ledger).pending with
  | some cause => Log.info ("FactoryReset: cancelled pending reset (" ++ cause.name ++ ")")
  | none =>
    if wasArmed then
      Log.warn "FactoryReset: cancelled a timer with no recorded trigger"
  modifyLedger fun ledger ↦ { ledger with pending := none }

/-- Runs the pending reset and answers with its cause. A timer that fires with nothing pending is
ignored. -/
def expire [Device σ] : Handler σ (Except HandlingError (Option ResetCause)) := do
  match (← ledger).pending with
  | none =>
    Log.warn "FactoryReset: timer fired with nothing pending, ignoring"
    return .ok none
  | some cause =>
    modifyLedger fun ledger ↦ { ledger with pending := none }
    Log.info ("FactoryReset: executing (" ++ cause.name ++ ")")
    match ← factoryReset with
    | .ok () =>
      modifyResets ResetCounts.countExecuted
      modifyLedger fun ledger ↦ { ledger with resetDone := true }
      Log.info "FactoryReset: complete"
      return .ok (some cause)
    | .error reason =>
      modifyResets ResetCounts.countFailed
      Log.error ("FactoryReset: failed (" ++ cause.name ++ "): " ++ reason.message)
      return .error (.resetFailed cause reason)

end TagControl.Reset
