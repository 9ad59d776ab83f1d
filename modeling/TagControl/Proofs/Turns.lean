import TagControl.Proofs.Controller
import TagControl.Proofs.Directions
/-!
Runs of a controller seen one event at a time. A turn handles a single event, or moves the timers
to the present and leaves the expired ones to be handled, or is a whole move; a pass is itself made
of such turns, so a run of turns also stops between any two events of a pass. Whatever the turn, its
calls and the ledger that it leaves are those of some events handled one after the other from the
ledger that it found (`Turned`).
-/

set_option autoImplicit false

namespace TagControl.Controller

open Engine

variable {σ : Type}

inductive Turn (σ : Type) where
  | event (event : Event)
  | elapse (now : Instant)
  | move (move : Move σ)

/-- What a turn does: some events are handled, from the memory it found with its timers moved. -/
structure Turned (before : Controller σ) (calls : List Call) (after : Controller σ) : Prop where
  deliveries : ∃ timers events handlings,
    Deliveries before.config { before.tag.toMemory with timers } events handlings calls
      after.tag.toMemory
  config : after.config = before.config

theorem Moved.turned {move : Move σ} {before after : Controller σ} {handlings : List Handling}
    {calls : List Call} (hmoved : Moved before move handlings calls after) :
    Turned before calls after := by
  cases hmoved with
  | pass hpassed =>
    obtain ⟨expiries, others, expiryCalls, otherCalls, middle, hexpiries, hothers, rfl, rfl⟩ :=
      hpassed.deliveries
    exact ⟨⟨_, _, _, hexpiries.append hothers⟩, hpassed.config⟩
  | post => exact ⟨⟨_, _, _, .nil⟩, rfl⟩
  | outside => exact ⟨⟨_, _, _, .nil⟩, rfl⟩

section Take

variable [Device σ]

def take : Turn σ → Pass σ Unit
  | .event event => do
    let _ ← handle event
  | .elapse now => do
    let _ ← onTag (expireTimers now)
  | .move move => perform move

theorem take_eq_ok {turn : Turn σ} {before after : Controller σ} {trace : List Entry}
    (hrun : (take turn).run before = ⟨.ok (), after, trace⟩) :
    Turned before (Trace.calls trace) after := by
  cases turn with
  | event event =>
    obtain ⟨outcome, handled, earlier, _, hhandle, hend, rfl⟩ := Act.run_bind_eq_ok.mp hrun
    cases hend
    have hhandled := handle_eq_ok hhandle
    rw [List.append_nil]
    exact ⟨⟨_, _, _, hhandled.deliveries⟩, hhandled.config⟩
  | elapse now =>
    obtain ⟨expired, moved, earlier, _, hmoved, hend, rfl⟩ := Act.run_bind_eq_ok.mp hrun
    cases hend
    rw [run_expireTimers] at hmoved
    cases hmoved
    exact ⟨⟨_, _, _, .nil⟩, rfl⟩
  | move move => exact (perform_eq_ok hrun).turned

/-- Nothing happens to the device in a turn but what its calls say, unless it is the device that
changes by itself. -/
theorem directs_take {turn : Turn σ} (hinside : ∀ change, turn ≠ .move (.outside change)) :
    Directs device (take turn) := by
  cases turn with
  | event event => exact directs_bind directs_handle fun _ ↦ directs_pure
  | elapse now =>
    exact directs_bind (directs_onTag (directs_idle (fun _ ↦ rfl) fun _ ↦ rfl)) fun _ ↦
      directs_pure
  | move move =>
    cases move with
    | post event =>
      exact directs_bind (directs_idle (fun _ ↦ by simp [onQueue]) fun _ ↦ rfl) fun _ ↦ directs_pure
    | pass now woken => exact directs_bind directs_run fun _ ↦ directs_pure
    | outside change => exact absurd rfl (hinside change)

end Take

end TagControl.Controller
