import TagControl.Bench
import TagControl.Proofs.Config
import TagControl.Proofs.Controller
import TagControl.Proofs.Windows
/-!
When the gate is open. At every point of a run the gate shows the ledger, so an attribute is open
only while the ledger says so; and an active mode is always backed (`Engine.Backed`): some event
that was handled opened its window, its timer is armed for the end of that window, and the clock is
inside it. No sequence of events, forged ones included, keeps a mode active past that end, because
a pass handles the expired timers first and every event that opens the window arms the timer.
-/

set_option autoImplicit false

namespace TagControl

namespace Engine

/-- If the mode is active, an event opened its window, its timer is armed for the end of that
window, and the clock is inside the window. -/
def Backed (config : Config) (mode : Mode) (history : List Handling) (memory : Memory) : Prop :=
  memory.ledger.isActive mode = true → ∃ handling ∈ history, handling.opens mode = true ∧
    memory.timers.deadline mode.timer =
      some (handling.memory.timers.now + mode.window config) ∧
    handling.memory.timers.now ≤ memory.timers.now ∧
    memory.timers.now < handling.memory.timers.now + mode.window config

variable {config : Config} {mode : Mode} {history : List Handling} {before after : Memory}

theorem Backed.kept (hbacked : Backed config mode history before) (more : List Handling)
    (hactive : after.ledger.isActive mode = true → before.ledger.isActive mode = true)
    (hdeadline : after.timers.deadline mode.timer = before.timers.deadline mode.timer)
    (hnow : after.timers.now = before.timers.now) :
    Backed config mode (history ++ more) after := by
  intro hafter
  obtain ⟨handling, hmem, hopens, harmed, hsince, huntil⟩ := hbacked (hactive hafter)
  rw [hdeadline, hnow]
  exact ⟨handling, List.mem_append_left _ hmem, hopens, harmed, hsince, huntil⟩

/-- Every event keeps a mode backed, once it is itself part of the history. -/
theorem Backed.effect {event : Event} {outcome : Except HandlingError Unit} {calls : List Call}
    (hbacked : Backed config mode history before) (hwindow : 0 < mode.window config)
    (heffect : Effect config before event calls (outcome.mapError .failed) after) :
    Backed config mode (history ++ [⟨before, event, outcome⟩]) after := by
  intro hactive
  have hafter := heffect.window mode
  obtain ⟨hopens, hopened⟩ | hended | hkept :=
    Handling.window_cases config mode ⟨before, event, outcome⟩
  · rw [hopened] at hafter
    refine ⟨_, List.mem_append_right _ (List.mem_singleton_self _), hopens,
      congrArg Prod.snd hafter, ?_, ?_⟩
    · exact Nat.le_of_eq heffect.now.symm
    · rw [heffect.now]
      exact Nat.lt_add_of_pos_right hwindow
  · have hinactive : after.ledger.isActive mode = false := (congrArg Prod.fst hafter).trans hended
    rw [hinactive] at hactive
    cases hactive
  · have hwindow : after.window mode = before.window mode := hafter.trans hkept
    have hactive' : after.ledger.isActive mode = before.ledger.isActive mode :=
      congrArg Prod.fst hwindow
    exact hbacked.kept _ (fun h ↦ hactive' ▸ h) (congrArg Prod.snd hwindow) heffect.now hactive

theorem Backed.deliveries {events : List Event} {handlings : List Handling} {calls : List Call}
    (hbacked : Backed config mode history before) (hwindow : 0 < mode.window config)
    (hdeliveries : Deliveries config before events handlings calls after) :
    Backed config mode (history ++ handlings) after := by
  induction hdeliveries generalizing history with
  | nil => simpa using hbacked
  | cons heffect hrest ih => simpa using ih (hbacked.effect hwindow heffect)

/-- Moving the clock keeps a mode backed: if the clock reaches the end of the window, the mode's
timer expires and the mode ends. -/
theorem Backed.advance {now : Instant} {handlings : List Handling} {calls : List Call}
    (hbacked : Backed config mode history before)
    (hdeliveries : Deliveries config { before with timers := (before.timers.advance now).2 }
      ((before.timers.advance now).1.map .timerExpired) handlings calls after) :
    Backed config mode (history ++ handlings) after := by
  intro hafter
  have hwindow := hdeliveries.window_expired mode
  have hactive : after.ledger.isActive mode = _ := congrArg Prod.fst hwindow
  have hdeadline : after.timers.deadline mode.timer = _ := congrArg Prod.snd hwindow
  rw [hafter, eq_comm, Bool.and_eq_true, decide_eq_true_iff, Timers.mem_advance] at hactive
  obtain ⟨hbefore, hahead⟩ := hactive
  obtain ⟨handling, hmem, hopens, harmed, hsince, huntil⟩ := hbacked hbefore
  have hlater : max before.timers.now now <
      handling.memory.timers.now + mode.window config :=
    Nat.lt_of_not_le fun hreached ↦ hahead ⟨_, harmed, hreached⟩
  refine ⟨handling, List.mem_append_left _ hmem, hopens, ?_, ?_, ?_⟩
  · rw [hdeadline, Timers.deadline_advance, harmed]
    simp [Option.filter, hlater]
  · rw [hdeliveries.now, Timers.now_advance]
    exact Nat.le_trans hsince (Nat.le_max_left _ _)
  · rw [hdeliveries.now, Timers.now_advance]
    exact hlater

/-- The provisioning state that was reported last. -/
def lastReport (history : List Handling) : Option Bool :=
  (history.filterMap fun handling ↦ report? handling.event).getLast?

theorem Deliveries.filterMap_report {events : List Event} {handlings : List Handling}
    {calls : List Call} (hdeliveries : Deliveries config before events handlings calls after) :
    (handlings.filterMap fun handling ↦ report? handling.event) = events.filterMap report? := by
  rw [← hdeliveries.map_event, List.filterMap_map]
  rfl

theorem Deliveries.lastReport {events : List Event} {handlings : List Handling}
    {calls : List Call} (hdeliveries : Deliveries config before events handlings calls after)
    (hbefore : before.ledger.provisioned = (lastReport history).getD false) :
    after.ledger.provisioned = (Engine.lastReport (history ++ handlings)).getD false := by
  rw [hdeliveries.provisioned, ← hdeliveries.filterMap_report, hbefore]
  unfold Engine.lastReport
  rw [List.filterMap_append, List.getLast?_append]
  cases (handlings.filterMap fun handling ↦ report? handling.event).getLast? <;> simp

end Engine

theorem Gate.value_authorize (gate : Gate) (id : AttributeId) :
    (gate.authorize id).value = gate.allows id.resource := by
  unfold authorize
  generalize id.resource = resource
  cases hallows : gate.allows resource with
  | true => simp [hallows]
  | false => cases resource <;> simp [hallows]

namespace Controller

open Engine

variable {σ : Type}

/-- What holds of a controller with the given history: its gate shows its ledger, the ledger's
provisioning state is that of the last report, and every mode is backed. -/
structure Guarded (config : Config) (history : List Handling) (controller : Controller σ) :
    Prop where
  configured : controller.config = config
  gate : controller.gate = .ofLedger controller.tag.ledger
  provisioned : controller.tag.ledger.provisioned = (lastReport history).getD false
  backed : ∀ mode, Backed config mode history controller.tag.toMemory

theorem guarded_powerOn (config : Config) (start : Instant) (bringUp : Traced Line σ) :
    Guarded config [] (powerOn config start bringUp).value where
  configured := rfl
  gate := rfl
  provisioned := rfl
  backed mode := by cases mode <;> exact fun hactive ↦ absurd hactive Bool.false_ne_true

theorem Guarded.step {config : Config} {history handlings : List Handling}
    {before after : Controller σ} {move : Move σ} {calls : List Call}
    (hguarded : Guarded config history before) (hwindow : ∀ mode : Mode, 0 < mode.window config)
    (hmoved : Moved before move handlings calls after) :
    Guarded config (history ++ handlings) after := by
  cases hmoved with
  | post =>
    rw [List.append_nil]
    exact ⟨hguarded.configured, hguarded.gate, hguarded.provisioned, hguarded.backed⟩
  | outside =>
    rw [List.append_nil]
    exact ⟨hguarded.configured, hguarded.gate, hguarded.provisioned, hguarded.backed⟩
  | pass hpassed =>
    obtain ⟨expiries, others, _, _, middle, hexpiries, hothers, rfl, -⟩ := hpassed.deliveries
    rw [hguarded.configured] at hexpiries hothers
    rw [← List.append_assoc]
    refine ⟨hpassed.config.trans hguarded.configured, hpassed.gate, ?_, fun mode ↦ ?_⟩
    · exact hothers.lastReport (hexpiries.lastReport hguarded.provisioned)
    · exact ((hguarded.backed mode).advance hexpiries).deliveries (hwindow mode) hothers

/-- In every run with a valid configuration, whatever is posted: the gate opens the characteristic
that carries updates only inside a window of update mode that some handled event has opened. It
opens the device name only inside such a window of identification mode, unless the last report did
not say that the tag is provisioned. -/
theorem gate_open_only_inside_window [Device σ] (config : Config)
    (hvalid : config.validate = .ok ()) (start : Instant) (bringUp : Traced Line σ)
    (moves : List (Move σ)) (run : Run (Controller σ) (Move σ))
    (hfollow : Run.follow perform (powerOn config start bringUp).value moves = .ok run) :
    ((run.state.gate.authorize .updateCharacteristic).value = true →
      ∃ handling ∈ Trace.handlings run.trace, handling.opens .dfu = true ∧
        handling.memory.timers.now ≤ run.state.tag.timers.now ∧
        run.state.tag.timers.now < handling.memory.timers.now + config.dfuWindow) ∧
    ((run.state.gate.authorize .deviceName).value = true →
      lastReport (Trace.handlings run.trace) ≠ some true ∨
      ∃ handling ∈ Trace.handlings run.trace, handling.opens .identification = true ∧
        handling.memory.timers.now ≤ run.state.tag.timers.now ∧
        run.state.tag.timers.now < handling.memory.timers.now + config.identificationWindow) := by
  have hguarded : Guarded config (Trace.handlings run.trace) run.state := by
    refine Run.follow_induction hfollow
      (motive := fun run ↦ Guarded config (Trace.handlings run.trace) run.state) ?_ ?_
    · exact guarded_powerOn config start bringUp
    · intro earlier move trace after hearlier hmove hrun
      rw [Run.trace_append, Trace.handlings_append]
      exact hearlier.step (Config.window_pos hvalid) (perform_eq_ok hrun)
  rw [hguarded.gate, Gate.value_authorize, Gate.value_authorize]
  constructor
  · intro hdfu
    obtain ⟨handling, hmem, hopens, -, hsince, huntil⟩ := hguarded.backed .dfu hdfu
    exact ⟨handling, hmem, hopens, hsince, huntil⟩
  · intro hallowed
    cases hidentification : run.state.tag.ledger.identification with
    | true =>
      obtain ⟨handling, hmem, hopens, -, hsince, huntil⟩ :=
        hguarded.backed .identification hidentification
      exact .inr ⟨handling, hmem, hopens, hsince, huntil⟩
    | false =>
      left
      intro hreport
      have hprovisioned : run.state.tag.ledger.provisioned = true := by
        rw [hguarded.provisioned, hreport]
        rfl
      change (!run.state.tag.ledger.provisioned || run.state.tag.ledger.identification) = true
        at hallowed
      rw [hprovisioned, hidentification] at hallowed
      cases hallowed

/-- Half a minute into update mode, the gate is open for the reason that is required. -/
theorem gate_open_in_update_mode :
    ∃ run, Run.follow perform (powerOn {} 0 (pure ({} : Bench))).value
        [.post (.requested .dfu), .pass 0 none, .pass 30000000 none] = .ok run ∧
      (run.state.gate.authorize .updateCharacteristic).value = true ∧
      ∃ handling ∈ Trace.handlings run.trace, handling.opens .dfu = true ∧
        handling.memory.timers.now ≤ run.state.tag.timers.now ∧
        run.state.tag.timers.now < handling.memory.timers.now + ({} : Config).dfuWindow := by
  obtain ⟨run, hrun, hopen⟩ : ∃ run,
      Run.follow perform (powerOn {} 0 (pure ({} : Bench))).value
        [.post (.requested .dfu), .pass 0 none, .pass 30000000 none] = .ok run ∧
      (run.state.gate.authorize .updateCharacteristic).value = true :=
    ⟨_, rfl, by decide +kernel⟩
  have hvalid : ({} : Config).validate = .ok () := by rfl
  have hsafe := gate_open_only_inside_window {} hvalid 0 (pure ({} : Bench)) _ run hrun
  exact ⟨run, hrun, hopen, hsafe.1 hopen⟩

end Controller

end TagControl
