import TagControl.Controller.Windows
import TagControl.Proofs.Controller
/-!
What a computation does not look at. A computation ignores a change of its state if it comes to the
same whether the change is made before it or after it (`Ignores`). The handling of an event ignores
the queue, the gate and what has been counted before it; the handling of an expiry moreover ignores
the timers and the read windows, since it only ends a mode or runs the pending reset.
-/

set_option autoImplicit false

namespace TagControl

section Ignores

variable {τ ε σ α β : Type} {change : σ → σ}

/-- The computation ends in the same way, and the change can as well be made after it. What it
writes to the trace may show the change. -/
def Ignores (change : σ → σ) (act : Act τ ε σ α) : Prop :=
  ∀ state, (act.run (change state)).result = (act.run state).result ∧
    (act.run (change state)).state = change (act.run state).state

theorem Ignores.run_eq_ok {act : Act τ ε σ α} {state after : σ} {value : α} {trace : List τ}
    (hignores : Ignores change act) (hrun : act.run state = ⟨.ok value, after, trace⟩) :
    ∃ entries, act.run (change state) = ⟨.ok value, change after, entries⟩ := by
  obtain ⟨hresult, hstate⟩ := hignores state
  rw [hrun] at hresult hstate
  rcases hchanged : act.run (change state) with ⟨result, elsewhere, entries⟩
  rw [hchanged] at hresult hstate
  dsimp only at hresult hstate
  subst hresult hstate
  exact ⟨entries, rfl⟩

theorem ignores_bind {act : Act τ ε σ β} {next : β → Act τ ε σ α} (hact : Ignores change act)
    (hnext : ∀ value, Ignores change (next value)) : Ignores change (act >>= next) := by
  intro state
  obtain ⟨hresult, hstate⟩ := hact state
  rw [Act.run_bind, Act.run_bind]
  rcases hrun : act.run state with ⟨reason | value, middle, trace⟩ <;>
    rcases hchanged : act.run (change state) with ⟨other | answer, elsewhere, entries⟩ <;>
    rw [hrun, hchanged] at hresult hstate
  · cases hresult
    exact ⟨rfl, hstate⟩
  · cases hresult
  · cases hresult
  · cases hresult
    dsimp only at hstate
    subst hstate
    exact hnext value middle

theorem ignores_pure {value : α} : Ignores change (pure value : Act τ ε σ α) :=
  fun _ ↦ ⟨rfl, rfl⟩

theorem ignores_stop {reason : ε} : Ignores change (Act.stop reason : Act τ ε σ α) :=
  fun _ ↦ ⟨rfl, rfl⟩

theorem ignores_log [OfLine τ] {line : Line} :
    Ignores change (MonadLog.log line : Act τ ε σ Unit) :=
  fun _ ↦ ⟨rfl, rfl⟩

end Ignores

/-! ### Expiries -/

/-- The tag with other timers and other read windows. -/
def Tag.aside (timers : Timers) (windows : ReadWindows) (tag : Tag Peripherals) :
    Tag Peripherals :=
  { tag with timers, device := { tag.device with windows } }

namespace Handler

variable {timers : Timers} {windows : ReadWindows}

theorem ignores_ledger :
    Ignores (Tag.aside timers windows) (ledger : Handler Peripherals Ledger) :=
  fun _ ↦ ⟨rfl, rfl⟩

theorem ignores_modifyLedger {change : Ledger → Ledger} :
    Ignores (Tag.aside timers windows) (modifyLedger change : Handler Peripherals Unit) :=
  fun _ ↦ ⟨rfl, rfl⟩

theorem ignores_modifyResets {change : ResetCounts → ResetCounts} :
    Ignores (Tag.aside timers windows) (modifyResets change : Handler Peripherals Unit) :=
  fun _ ↦ ⟨rfl, rfl⟩

theorem ignores_advertise {mode : AdvertisingMode} : Ignores (Tag.aside timers windows)
    (advertise mode : Handler Peripherals (Except DeviceError Unit)) :=
  fun _ ↦ ⟨rfl, rfl⟩

theorem ignores_suspendRotation {suspend : Bool} :
    Ignores (Tag.aside timers windows) (suspendRotation suspend : Handler Peripherals Unit) :=
  fun _ ↦ ⟨rfl, rfl⟩

theorem ignores_offerUpdates {offer : Bool} :
    Ignores (Tag.aside timers windows) (offerUpdates offer : Handler Peripherals Unit) :=
  fun _ ↦ ⟨rfl, rfl⟩

theorem ignores_indicate {state : Indication} {active : Bool} :
    Ignores (Tag.aside timers windows) (indicate state active : Handler Peripherals Unit) :=
  fun _ ↦ ⟨rfl, rfl⟩

theorem ignores_factoryReset : Ignores (Tag.aside timers windows)
    (factoryReset : Handler Peripherals (Except DeviceError Unit)) :=
  fun _ ↦ ⟨rfl, rfl⟩

theorem ignores_leave {mode : Mode} :
    Ignores (Tag.aside timers windows) (TimedMode.leave mode : Handler Peripherals Unit) := by
  have hshown : Ignores (Tag.aside timers windows) (do
      indicate mode.indication false
      Log.info ("Mode: left " ++ mode.name) : Handler Peripherals Unit) :=
    ignores_bind ignores_indicate fun _ ↦ ignores_log
  unfold TimedMode.leave
  refine ignores_bind ignores_ledger fun ledger ↦ ?_
  split
  · refine ignores_bind ignores_modifyLedger fun _ ↦ ?_
    dsimp only
    split
    · refine ignores_bind ignores_offerUpdates fun _ ↦
        ignores_bind ignores_advertise fun answer ↦ ?_
      cases answer with
      | ok _ => exact hshown
      | error reason => exact ignores_bind ignores_log fun _ ↦ hshown
    · exact hshown
  · exact ignores_log

theorem ignores_expire : Ignores (Tag.aside timers windows)
    (Reset.expire : Handler Peripherals (Except HandlingError (Option ResetCause))) := by
  unfold Reset.expire
  refine ignores_bind ignores_ledger fun ledger ↦ ?_
  cases ledger.pending with
  | none => exact ignores_bind ignores_log fun _ ↦ ignores_pure
  | some cause =>
    refine ignores_bind ignores_modifyLedger fun _ ↦ ignores_bind ignores_log fun _ ↦
      ignores_bind ignores_factoryReset fun answer ↦ ?_
    cases answer with
    | ok _ =>
      exact ignores_bind ignores_modifyResets fun _ ↦ ignores_bind ignores_modifyLedger fun _ ↦
        ignores_bind ignores_log fun _ ↦ ignores_pure
    | error reason =>
      exact ignores_bind ignores_modifyResets fun _ ↦ ignores_bind ignores_log fun _ ↦ ignores_pure

theorem ignores_resetExpired : Ignores (Tag.aside timers windows)
    (Engine.resetExpired : Handler Peripherals Unit) := by
  unfold Engine.resetExpired
  refine ignores_bind ignores_ledger fun ledger ↦ ignores_bind ignores_expire fun outcome ↦
    ignores_bind ?_ fun _ ↦ ?_
  · unfold Provisioning.resumeRotationAfter
    split
    · exact ignores_suspendRotation
    · exact ignores_pure
  · cases outcome with
    | ok _ => exact ignores_pure
    | error reason => exact ignores_stop

end Handler

theorem Engine.ignores_timerExpired {timers : Timers} {windows : ReadWindows} {config : Config}
    {timer : Timer} : Ignores (Tag.aside timers windows)
      (Engine.handle config (.timerExpired timer) : Handler Peripherals Unit) := by
  show Ignores _ (Engine.timerExpired timer)
  unfold Engine.timerExpired
  cases Mode.ofTimer timer with
  | none => exact Handler.ignores_resetExpired
  | some mode => exact ignores_bind ignores_log fun _ ↦ Handler.ignores_leave

/-- Noting an event in the trace looks at the memory, but only the trace shows it. -/
theorem Engine.ignores_deliver {σ : Type} [Device σ] {change : Tag σ → Tag σ} {config : Config}
    {event : Event} (hhandle : Ignores change (Engine.handle config event)) :
    Ignores change (Engine.deliver config event) := by
  intro tag
  obtain ⟨hresult, hstate⟩ := hhandle tag
  rw [run_deliver, run_deliver]
  dsimp only
  rw [hresult]
  cases Stop.settle ((Engine.handle config event).run tag).result <;> exact ⟨rfl, hstate⟩

/-! ### The controller -/

namespace Controller

variable {σ : Type} {f : Tag σ → Tag σ} {queue : EventQueue} {gate : Gate} {extra : UInt32}

/-- The controller with its tag changed, another queue and another gate, and with more events
counted. -/
def aside (f : Tag σ → Tag σ) (queue : EventQueue) (gate : Gate) (extra : UInt32)
    (controller : Controller σ) : Controller σ :=
  { controller with
    tag := f controller.tag
    queue
    gate
    handled := controller.handled + extra }

variable [Device σ]

theorem ignores_handle {event : Event}
    (hhandle : ∀ config, Ignores f (Engine.handle config event : Handler σ Unit)) :
    Ignores (aside f queue gate extra) (handle event) := by
  intro controller
  obtain ⟨hresult, hstate⟩ :=
    Engine.ignores_deliver (hhandle controller.config) controller.tag
  have hcount : controller.handled + extra + 1 = controller.handled + 1 + extra := by
    rw [UInt32.add_assoc, UInt32.add_comm extra, ← UInt32.add_assoc]
  rw [run_handle, run_handle]
  rcases hdeliver : (Engine.deliver controller.config event).run controller.tag with
    ⟨overflow | reason | _, tag, trace⟩ <;>
    rcases hchanged : (Engine.deliver controller.config event).run (f controller.tag) with
      ⟨other, elsewhere, entries⟩ <;>
    rw [hdeliver, hchanged] at hresult hstate <;>
    dsimp only at hresult hstate <;>
    subst hresult hstate <;>
    simp [aside, hchanged, hcount]

theorem ignores_handleAll {events : List Event}
    (hhandle : ∀ event ∈ events, ∀ config,
      Ignores f (Engine.handle config event : Handler σ Unit)) :
    Ignores (aside f queue gate extra) (handleAll events) := by
  induction events with
  | nil => exact ignores_pure
  | cons event rest ih =>
    rw [List.forall_mem_cons] at hhandle
    exact ignores_bind (ignores_handle hhandle.1) fun _ ↦ ih hhandle.2

theorem ignores_handleAll_expired (timers : Timers) (windows : ReadWindows) (queue : EventQueue)
    (gate : Gate) (extra : UInt32) (expired : List Timer) :
    Ignores (aside (Tag.aside timers windows) queue gate extra)
      (handleAll (expired.map .timerExpired)) := by
  refine ignores_handleAll fun event hevent config ↦ ?_
  obtain ⟨timer, -, rfl⟩ := List.mem_map.mp hevent
  exact Engine.ignores_timerExpired

end Controller

end TagControl
