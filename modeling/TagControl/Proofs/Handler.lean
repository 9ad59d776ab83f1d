import TagControl.Handler
import TagControl.Proofs.Timers
import TagControl.Proofs.Trace
/-!
Assertions on the computations that handle events. `Ends act tag post` says that the computation
handles no further event and that its calls, its result and the tag it leaves satisfy `post`. The
rules below reduce an assertion on a computation to assertions on its parts (`ends_bind`) and, for
a direction to the device, to every answer that the device may give (`ends_advertise` and those
after it): an assertion proved by them holds whatever the device answers and however it changes.
-/

set_option autoImplicit false

namespace TagControl

@[simp] theorem mapError_ok {ε δ α : Type} (f : ε → δ) (value : α) :
    (Except.ok value).mapError f = .ok value := rfl

@[simp] theorem mapError_error {ε δ α : Type} (f : ε → δ) (reason : ε) :
    (Except.error reason : Except ε α).mapError f = .error (f reason) := rfl

theorem Stop.settle_eq_ok {ε α : Type} {result : Except (Stop ε) α} {outcome : Except ε α} :
    Stop.settle result = .ok outcome ↔ result = outcome.mapError .failed := by
  rcases result with (overflow | reason) | value <;> rcases outcome with other | other <;>
    simp [Stop.settle]

theorem Stop.settle_eq_error {ε α : Type} {result : Except (Stop ε) α} {overflow : ClockOverflow} :
    Stop.settle result = .error overflow ↔ result = .error (.clockOverflow overflow) := by
  rcases result with (other | reason) | value <;> simp [Stop.settle]

namespace Handler

variable {σ α β : Type}

def Ends (act : Handler σ α) (tag : Tag σ)
    (post : List Call → Except (Stop HandlingError) α → Tag σ → Prop) : Prop :=
  let out := act.run tag
  Trace.handlings out.trace = [] ∧ post (Trace.calls out.trace) out.result out.state

section Rules

variable {tag : Tag σ} {post : List Call → Except (Stop HandlingError) α → Tag σ → Prop}

theorem Ends.mono {act : Handler σ α}
    {weaker : List Call → Except (Stop HandlingError) α → Tag σ → Prop} (hends : Ends act tag post)
    (hweaker : ∀ calls result after, post calls result after → weaker calls result after) :
    Ends act tag weaker :=
  ⟨hends.1, hweaker _ _ _ hends.2⟩

/-- What comes after a computation is asserted of the tag that the computation leaves, and of the
calls of both. After an early end nothing comes. -/
@[simp] theorem ends_bind {act : Handler σ β} {next : β → Handler σ α} :
    Ends (act >>= next) tag post ↔ Ends act tag fun calls result after ↦
      match result with
      | .ok value => Ends (next value) after fun more ↦ post (calls ++ more)
      | .error reason => post calls (.error reason) after := by
  unfold Ends
  rcases hrun : act.run tag with ⟨_ | _, _, _⟩
  · simp [hrun]
  · simp [hrun, and_assoc]

@[simp] theorem ends_pure {value : α} : Ends (pure value) tag post ↔ post [] (.ok value) tag := by
  simp [Ends]

@[simp] theorem ends_map {act : Handler σ β} {f : β → α} :
    Ends (f <$> act) tag post ↔
      Ends act tag fun calls result after ↦ post calls (result.map f) after := by
  simp [Ends]

@[simp] theorem ends_ite {condition : Prop} [Decidable condition] {yes no : Handler σ α} :
    Ends (if condition then yes else no) tag post ↔
      if condition then Ends yes tag post else Ends no tag post := by
  split <;> rfl

@[simp] theorem ends_abandon {reason : HandlingError} :
    Ends (abandon reason) tag post ↔ post [] (.error (.failed reason)) tag := by
  simp [Ends]

@[simp] theorem ends_ledger {post : List Call → Except (Stop HandlingError) Ledger → Tag σ → Prop} :
    Ends ledger tag post ↔ post [] (.ok tag.ledger) tag := by
  simp [Ends]

end Rules

section Steps

variable {tag : Tag σ} {post : List Call → Except (Stop HandlingError) Unit → Tag σ → Prop}

@[simp] theorem ends_log {line : Line} :
    Ends (MonadLog.log line) tag post ↔ post [] (.ok ()) tag := by
  simp [Ends, OfLine.ofLine]

@[simp] theorem ends_info {text : String} :
    Ends (Log.info text) tag post ↔ post [] (.ok ()) tag :=
  ends_log

@[simp] theorem ends_warn {text : String} :
    Ends (Log.warn text) tag post ↔ post [] (.ok ()) tag :=
  ends_log

@[simp] theorem ends_debug {text : String} :
    Ends (Log.debug text) tag post ↔ post [] (.ok ()) tag :=
  ends_log

@[simp] theorem ends_error {text : String} :
    Ends (Log.error text) tag post ↔ post [] (.ok ()) tag :=
  ends_log

@[simp] theorem ends_modifyLedger {change : Ledger → Ledger} :
    Ends (modifyLedger change) tag post ↔
      post [] (.ok ()) { tag with ledger := change tag.ledger } := by
  simp [Ends]

@[simp] theorem ends_modifyResets {change : ResetCounts → ResetCounts} :
    Ends (modifyResets change) tag post ↔
      post [] (.ok ()) { tag with resets := change tag.resets } := by
  simp [Ends]

/-- Arming succeeds if the deadline is not past the last instant, and ends the computation
otherwise. -/
theorem ends_arm {timer : Timer} {wait : Duration}
    (harmed : tag.timers.now + wait < Instant.limit → post [] (.ok ())
      { tag with timers := tag.timers.withDeadline timer (some (tag.timers.now + wait)) })
    (hlate : Instant.limit ≤ tag.timers.now + wait →
      post [] (.error (.clockOverflow .pastLastInstant)) tag) :
    Ends (arm timer wait) tag post := by
  by_cases hroom : tag.timers.now + wait < Instant.limit
  · simpa [Ends, arm, Timers.value_arm, hroom] using harmed hroom
  · simpa [Ends, arm, Timers.value_arm, hroom] using hlate (Nat.le_of_not_lt hroom)

@[simp] theorem ends_cancel {timer : Timer}
    {post : List Call → Except (Stop HandlingError) Bool → Tag σ → Prop} :
    Ends (cancel timer) tag post ↔ post [] (.ok (tag.timers.isArmed timer))
      { tag with timers := tag.timers.withDeadline timer none } := by
  simp [Ends, cancel, Timers.value_cancel]

end Steps

/-! ### Directions to the device -/

section Directions

variable {tag : Tag σ}

theorem ends_onDevice {act : Logged σ α}
    {post : List Call → Except (Stop HandlingError) α → Tag σ → Prop}
    (hanswer : ∀ answer device, post [] (.ok answer) { tag with device }) :
    Ends (onDevice act) tag post := by
  simpa [Ends] using hanswer _ _

@[simp] theorem ends_record {call : Call}
    {post : List Call → Except (Stop HandlingError) Unit → Tag σ → Prop} :
    Ends (record call) tag post ↔ post [call] (.ok ()) tag := by
  simp [Ends]

/-- A direction is a computation on the device whose answer is recorded and returned. -/
theorem ends_direction {act : Logged σ α} {call : α → Call}
    {post : List Call → Except (Stop HandlingError) α → Tag σ → Prop}
    (hanswer : ∀ answer device, post [call answer] (.ok answer) { tag with device }) :
    Ends (do
      let answer ← onDevice act
      record (call answer)
      return answer) tag post := by
  rw [ends_bind]
  refine ends_onDevice fun answer device ↦ ?_
  simp only [ends_bind, ends_record, ends_pure]
  exact hanswer answer device

/-- A direction that answers nothing. -/
theorem ends_order {act : Logged σ Unit} {call : Call}
    {post : List Call → Except (Stop HandlingError) Unit → Tag σ → Prop}
    (hdone : ∀ device, post [call] (.ok ()) { tag with device }) :
    Ends (do
      onDevice act
      record call) tag post := by
  rw [ends_bind]
  refine ends_onDevice fun _ device ↦ ?_
  rw [ends_record]
  exact hdone device

variable [Device σ]

theorem ends_advertise {mode : AdvertisingMode}
    {post : List Call → Except (Stop HandlingError) (Except DeviceError Unit) → Tag σ → Prop}
    (hanswer : ∀ answer device,
      post [.advertise mode answer] (.ok answer) { tag with device }) :
    Ends (advertise mode) tag post :=
  ends_direction hanswer

theorem ends_suspendRotation {suspend : Bool}
    {post : List Call → Except (Stop HandlingError) Unit → Tag σ → Prop}
    (hdone : ∀ device, post [.suspendRotation suspend] (.ok ()) { tag with device }) :
    Ends (suspendRotation suspend) tag post :=
  ends_order hdone

theorem ends_offerUpdates {offer : Bool}
    {post : List Call → Except (Stop HandlingError) Unit → Tag σ → Prop}
    (hdone : ∀ device, post [.offerUpdates offer] (.ok ()) { tag with device }) :
    Ends (offerUpdates offer) tag post :=
  ends_order hdone

theorem ends_indicate {state : Indication} {active : Bool}
    {post : List Call → Except (Stop HandlingError) Unit → Tag σ → Prop}
    (hdone : ∀ device, post [.indicate state active] (.ok ()) { tag with device }) :
    Ends (indicate state active) tag post :=
  ends_order hdone

/-- Asking about the keys leaves the device as it is, unlike the directions. -/
theorem ends_holdsKey
    {post : List Call → Except (Stop HandlingError) (Except DeviceError Bool) → Tag σ → Prop}
    (hanswer : ∀ answer, post [.holdsKey answer] (.ok answer) tag) :
    Ends holdsKey tag post := by
  simpa [Ends, holdsKey, Except.map] using hanswer _

theorem ends_factoryReset
    {post : List Call → Except (Stop HandlingError) (Except DeviceError Unit) → Tag σ → Prop}
    (hanswer : ∀ answer device,
      post [.factoryReset answer] (.ok answer) { tag with device }) :
    Ends factoryReset tag post :=
  ends_direction hanswer

/-- A window opens, or the beacon refuses, or its closing instant lies past the last one. -/
theorem ends_openWindow {mode : ReadMode}
    {post : List Call → Except (Stop HandlingError) (Except DeviceError Unit) → Tag σ → Prop}
    (hanswer : ∀ answer device, post [.openWindow mode (answer.mapError .failed)] (.ok answer)
      { tag with device })
    (hlate : ∀ overflow device, post [.openWindow mode (.error (.clockOverflow overflow))]
      (.error (.clockOverflow overflow)) { tag with device }) :
    Ends (openWindow mode) tag post := by
  unfold openWindow
  rw [ends_bind]
  refine ends_onDevice fun answer device ↦ ?_
  simp only [ends_bind, ends_record]
  rcases answer with (overflow | reason) | _
  · have hstopped := hlate overflow device
    simpa [Ends, Stop.settle] using hstopped
  · have hrefused := hanswer (.error reason) device
    simpa [Stop.settle] using hrefused
  · have hopened := hanswer (.ok ()) device
    simpa [Stop.settle] using hopened

end Directions

end Handler

end TagControl
