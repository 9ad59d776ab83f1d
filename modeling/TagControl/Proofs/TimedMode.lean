import TagControl.Proofs.Handler
import TagControl.TimedMode
/-!
What the operations on a timed mode do: entering it (`Entered`), leaving it (`Left`) and extending
the update window (`Extended`). An entry that is refused or fails leaves the memory as it was, so a
failed refresh leaves the running window alone. Leaving never fails.
-/

set_option autoImplicit false

namespace TagControl.TimedMode

open Handler

variable {σ : Type}

/-- Whether entering a mode is refused for want of provisioning. -/
def isRefused (ledger : Ledger) (mode : Mode) : Bool :=
  mode.needsProvisioning && !ledger.provisioned

def updateAdvertising (provisioned : Bool) : AdvertisingMode :=
  if provisioned then .notDiscoverable else .discoverable

/-- The calls that open a mode when none of them fails. -/
def opening (provisioned : Bool) : Mode → List Call
  | .recovery => [.openWindow .recovery (.ok ())]
  | .identification => [.openWindow .identification (.ok ())]
  | .dfu => [.advertise (updateAdvertising provisioned) (.ok ()), .offerUpdates true]

/-- The ways in which the opening of a mode can fail; each ends at the call that failed. -/
inductive OpeningFailed (provisioned : Bool) : Mode → List Call → Stop HandlingError → Prop
  | window (mode : ReadMode) (reason : DeviceError) :
    OpeningFailed provisioned (.ofReadMode mode) [.openWindow mode (.error (.failed reason))]
      (.failed (.stepFailed "enter read mode" reason))
  | windowTooLate (mode : ReadMode) (overflow : ClockOverflow) :
    OpeningFailed provisioned (.ofReadMode mode)
      [.openWindow mode (.error (.clockOverflow overflow))] (.clockOverflow overflow)
  | transport (reason : DeviceError) :
    OpeningFailed provisioned .dfu [.advertise (updateAdvertising provisioned) (.error reason)]
      (.failed (.stepFailed "set advertising mode" reason))

/-- Opening a mode runs out of clock only if the beacon says so. -/
theorem OpeningFailed.openWindow_mem {provisioned : Bool} {mode : Mode} {calls : List Call}
    {overflow : ClockOverflow}
    (hfailed : OpeningFailed provisioned mode calls (.clockOverflow overflow)) :
    ∃ readMode, .openWindow readMode (.error (.clockOverflow overflow)) ∈ calls := by
  cases hfailed with
  | windowTooLate readMode => exact ⟨readMode, List.mem_singleton_self _⟩

inductive Entered (config : Config) (mode : Mode) (before : Memory) :
    List Call → Except (Stop HandlingError) Unit → Memory → Prop
  | refused (hrefused : isRefused before.ledger mode = true) :
    Entered config mode before [] (.ok ()) before
  | notOpened {calls : List Call} {reason : Stop HandlingError}
      (hallowed : isRefused before.ledger mode = false)
      (hfailed : OpeningFailed before.ledger.provisioned mode calls reason) :
    Entered config mode before calls (.error reason) before
  | tooLate (hallowed : isRefused before.ledger mode = false)
      (hlate : Instant.limit ≤ before.timers.now + mode.window config) :
    Entered config mode before (opening before.ledger.provisioned mode)
      (.error (.clockOverflow .pastLastInstant)) before
  | entered (hallowed : isRefused before.ledger mode = false)
      (hroom : before.timers.now + mode.window config < Instant.limit) :
    Entered config mode before
      (opening before.ledger.provisioned mode ++ [.indicate mode.indication true]) (.ok ())
      { before with
        ledger := before.ledger.withActive mode true
        timers := before.timers.withDeadline mode.timer
          (some (before.timers.now + mode.window config)) }

/-- The calls by which an active mode is left. -/
def leaving (stopped : Except DeviceError Unit) (mode : Mode) : List Call :=
  (if mode = .dfu then [.offerUpdates false, .advertise .off stopped] else []) ++
    [.indicate mode.indication false]

inductive Left (mode : Mode) (before : Memory) :
    List Call → Except (Stop HandlingError) Unit → Memory → Prop
  | inactive (hinactive : before.ledger.isActive mode = false) :
    Left mode before [] (.ok ()) before
  | left (stopped : Except DeviceError Unit) (hactive : before.ledger.isActive mode = true) :
    Left mode before (leaving stopped mode) (.ok ())
      { before with ledger := before.ledger.withActive mode false }

inductive Extended (config : Config) (command : Command) (before : Memory) :
    List Call → Except (Stop HandlingError) Unit → Memory → Prop
  | ignored (hignored : (command.isUpdate && before.ledger.dfu) = false) :
    Extended config command before [] (.ok ()) before
  | extended (htaken : (command.isUpdate && before.ledger.dfu) = true)
      (hroom : before.timers.now + config.dfuWindow < Instant.limit) :
    Extended config command before [] (.ok ())
      { before with
        timers := before.timers.withDeadline .dfu (some (before.timers.now + config.dfuWindow)) }
  | tooLate (htaken : (command.isUpdate && before.ledger.dfu) = true)
      (hlate : Instant.limit ≤ before.timers.now + config.dfuWindow) :
    Extended config command before [] (.error (.clockOverflow .pastLastInstant)) before

section Handlers

variable [Device σ] {tag : Tag σ}

theorem ends_openReadWindow {mode : ReadMode}
    {post : List Call → Except (Stop HandlingError) Unit → Tag σ → Prop}
    (hopened : ∀ device, post [.openWindow mode (.ok ())] (.ok ()) { tag with device })
    (hfailed : ∀ calls reason device,
      OpeningFailed tag.ledger.provisioned (.ofReadMode mode) calls reason →
      post calls (.error reason) { tag with device }) :
    Ends (openReadWindow mode) tag post := by
  unfold openReadWindow
  rw [ends_bind]
  refine ends_openWindow (fun answer device ↦ ?_) (fun overflow device ↦ ?_)
  · cases answer with
    | ok _ => simpa using hopened device
    | error reason =>
      simpa using hfailed _ _ device (.window mode reason)
  · exact hfailed _ _ device (.windowTooLate mode overflow)

theorem ends_openUpdateTransport
    {post : List Call → Except (Stop HandlingError) Unit → Tag σ → Prop}
    (hopened : ∀ device, post (opening tag.ledger.provisioned .dfu) (.ok ()) { tag with device })
    (hfailed : ∀ calls reason device, OpeningFailed tag.ledger.provisioned .dfu calls reason →
      post calls (.error reason) { tag with device }) :
    Ends openUpdateTransport tag post := by
  unfold openUpdateTransport
  rw [ends_bind, ends_ledger]
  simp only [ends_bind]
  refine ends_advertise fun answer device ↦ ?_
  cases answer with
  | ok _ =>
    refine ends_offerUpdates fun device ↦ ?_
    simpa [opening, updateAdvertising] using hopened device
  | error reason =>
    simpa [updateAdvertising] using hfailed _ _ device (.transport reason)

/-- The end of an entry, once the mode has been opened. -/
theorem ends_start {config : Config} {mode : Mode} {refreshed entered : String} {wasActive : Bool}
    (hallowed : isRefused tag.ledger mode = false) :
    Ends (do
      arm mode.timer (mode.window config)
      modifyLedger fun ledger ↦ ledger.withActive mode true
      indicate mode.indication true
      if wasActive then
        Log.info refreshed
      else
        Log.info entered) tag fun calls result after ↦
      Entered config mode tag.toMemory (opening tag.ledger.provisioned mode ++ calls) result
        after.toMemory := by
  simp only [ends_bind]
  refine ends_arm (fun hroom ↦ ?_) (fun hroom ↦ ?_)
  · simp only [ends_modifyLedger]
    refine ends_indicate fun device ↦ ?_
    cases wasActive <;> simpa using Entered.entered hallowed hroom
  · simpa using Entered.tooLate hallowed hroom

theorem ends_enter {config : Config} {mode : Mode} :
    Ends (enter config mode) tag fun calls result after ↦
      Entered config mode tag.toMemory calls result after.toMemory := by
  unfold enter
  rw [ends_bind, ends_ledger]
  cases hrefused : isRefused tag.ledger mode with
  | true =>
    have hcondition : (mode.needsProvisioning && !tag.ledger.provisioned) = true := hrefused
    simpa [hcondition] using Entered.refused hrefused
  | false =>
    have hcondition : (mode.needsProvisioning && !tag.ledger.provisioned) = false := hrefused
    simp only [hcondition, Bool.false_eq_true, if_false]
    cases mode with
    | recovery =>
      simp only [Mode.readMode, reduceCtorEq, if_false]
      rw [ends_bind]
      refine ends_openReadWindow (fun device ↦ ?_) (fun calls reason device hfailed ↦ ?_)
      · exact ends_start hrefused
      · exact .notOpened hrefused hfailed
    | identification =>
      simp only [Mode.readMode, reduceCtorEq, if_false]
      rw [ends_bind]
      refine ends_openReadWindow (fun device ↦ ?_) (fun calls reason device hfailed ↦ ?_)
      · exact ends_start hrefused
      · exact .notOpened hrefused hfailed
    | dfu =>
      simp only [Mode.readMode, if_true]
      rw [ends_bind]
      refine ends_openUpdateTransport (fun device ↦ ?_) (fun calls reason device hfailed ↦ ?_)
      · exact ends_start hrefused
      · exact .notOpened hrefused hfailed

theorem ends_leave {mode : Mode} :
    Ends (leave mode) tag fun calls result after ↦
      Left mode tag.toMemory calls result after.toMemory := by
  unfold leave
  rw [ends_bind, ends_ledger]
  cases hactive : tag.ledger.isActive mode with
  | false =>
    simpa [hactive] using Left.inactive hactive
  | true =>
    simp only [hactive, if_true, ends_bind, ends_modifyLedger]
    by_cases hdfu : mode = .dfu
    · subst hdfu
      simp only [if_true, ends_bind]
      refine ends_offerUpdates fun device ↦ ends_advertise fun stopped device ↦ ?_
      cases stopped with
      | ok _ =>
        simp only [ends_bind]
        refine ends_indicate fun device ↦ ?_
        simpa [leaving] using Left.left (.ok ()) hactive
      | error reason =>
        simp only [ends_bind, ends_warn]
        refine ends_indicate fun device ↦ ?_
        simpa [leaving] using Left.left (.error reason) hactive
    · simp only [hdfu, if_false, ends_bind]
      refine ends_indicate fun device ↦ ?_
      simpa [leaving, hdfu] using Left.left (.ok ()) hactive

theorem ends_readModeExited {mode : ReadMode} :
    Ends (readModeExited mode) tag fun calls result after ↦
      Left (.ofReadMode mode)
        { tag.toMemory with
          timers := tag.timers.withDeadline (Mode.ofReadMode mode).timer none }
        calls result after.toMemory := by
  unfold readModeExited
  rw [ends_bind, ends_cancel]
  exact ends_leave

theorem ends_timedOut {mode : Mode} :
    Ends (timedOut mode) tag fun calls result after ↦
      Left mode tag.toMemory calls result after.toMemory := by
  unfold timedOut
  rw [ends_bind, ends_info]
  exact ends_leave

theorem ends_request {config : Config} {request : Request} :
    Ends (TimedMode.request config request) tag fun calls result after ↦
      Entered config request.mode tag.toMemory calls result after.toMemory := by
  unfold TimedMode.request
  rw [ends_bind, ends_debug]
  exact ends_enter

omit [Device σ] in
theorem ends_extendUpdate {config : Config} {command : Command} :
    Ends (extendUpdate config command) tag fun calls result after ↦
      Extended config command tag.toMemory calls result after.toMemory := by
  unfold extendUpdate
  cases hupdate : command.isUpdate with
  | false =>
    simpa using Extended.ignored (by simp [hupdate])
  | true =>
    simp only [Bool.not_true, Bool.false_eq_true, if_false, ends_bind, ends_ledger]
    cases hdfu : tag.ledger.dfu with
    | false =>
      simpa using Extended.ignored (by simp [hdfu])
    | true =>
      have htaken : (command.isUpdate && tag.ledger.dfu) = true := by simp [hupdate, hdfu]
      simp only [Bool.not_true, Bool.false_eq_true, if_false, ends_bind]
      refine ends_arm (fun hroom ↦ ?_) (fun hroom ↦ ?_)
      · simpa using Extended.extended htaken hroom
      · exact Extended.tooLate htaken hroom

end Handlers

end TagControl.TimedMode
