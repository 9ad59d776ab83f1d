import TagControl.Controller
import TagControl.Proofs.Engine
/-!
What a pass of the controller does: the expired timers are handled, then the event that woke the
controller, then all that is queued, and the gate is published from the ledger they leave
(`Passed`). Between passes events are posted and the device may change by itself, and neither
touches the tag's memory or the gate.
-/

set_option autoImplicit false

namespace TagControl

theorem Engine.Deliveries.append {config : Config} {before middle after : Memory}
    {first second : List Event} {earlier later : List Handling} {calls more : List Call}
    (hfirst : Deliveries config before first earlier calls middle)
    (hsecond : Deliveries config middle second later more after) :
    Deliveries config before (first ++ second) (earlier ++ later) (calls ++ more) after := by
  induction hfirst with
  | nil => exact hsecond
  | cons heffect hrest ih =>
    rw [List.append_assoc]
    exact .cons heffect (ih hsecond)

theorem Engine.Deliveries.append_inv {config : Config} {before after : Memory}
    {first second : List Event} {handlings : List Handling} {calls : List Call}
    (hdeliveries : Deliveries config before (first ++ second) handlings calls after) :
    ∃ middle earlier later callsFirst callsSecond,
      Deliveries config before first earlier callsFirst middle ∧
      Deliveries config middle second later callsSecond after ∧
      handlings = earlier ++ later ∧ calls = callsFirst ++ callsSecond := by
  induction first generalizing before handlings calls with
  | nil => exact ⟨before, [], handlings, [], calls, .nil, hdeliveries, rfl, rfl⟩
  | cons event first ih =>
    cases hdeliveries with
    | cons heffect hrest =>
      obtain ⟨middle, earlier, later, _, _, hfirst, hsecond, rfl, rfl⟩ := ih hrest
      exact ⟨middle, _, later, _, _, .cons heffect hfirst, hsecond, rfl,
        (List.append_assoc _ _ _).symm⟩

namespace Controller

open Engine

variable {σ : Type}

/-- What can happen to a controller: an event is posted, a pass is run, for an event taken from the
queue if there is one, or the device changes by itself. -/
inductive Move (σ : Type) where
  | post (event : Event)
  | pass (now : Instant) (woken : Option Event)
  | outside (change : σ → σ)

section Perform

variable [Device σ]

def perform : Move σ → Pass σ Unit
  | .post event => do
    let _ ← onQueue (EventQueue.post event)
  | .pass now woken => do
    let _ ← run now woken
  | .outside change =>
    modify fun controller ↦
      { controller with
        tag := { controller.tag with device := change controller.tag.device } }

/-- What handling events in order does: to the memory what the events do, and nothing to the
configuration, the queue and the gate. -/
structure Handled (before : Controller σ) (events : List Event) (handlings : List Handling)
    (calls : List Call) (after : Controller σ) : Prop where
  deliveries :
    Deliveries before.config before.tag.toMemory events handlings calls after.tag.toMemory
  config : after.config = before.config
  queue : after.queue = before.queue
  gate : after.gate = before.gate

omit [Device σ] in
theorem run_onTag {α : Type} (act : Course σ α) (controller : Controller σ) :
    (onTag act).run controller = ⟨(act.run controller.tag).result,
      { controller with tag := (act.run controller.tag).state },
      (act.run controller.tag).trace⟩ := rfl

theorem run_handle (event : Event) (controller : Controller σ) :
    (handle event).run controller =
      let out := (deliver controller.config event).run controller.tag
      let counted :=
        { controller with tag := out.state, handled := controller.handled + 1 }
      match out.result with
      | .ok (.ok ()) => ⟨.ok (.ok ()), counted, out.trace⟩
      | .ok (.error reason) =>
        ⟨.ok (.error reason), { counted with failed := controller.failed + 1 },
          out.trace ++ [.logged ⟨.warn,
            "ModeService: " ++ event.name ++ " abandoned: " ++ reason.message⟩]⟩
      | .error overflow => ⟨.error overflow, counted, out.trace⟩ := by
  rcases hdeliver : (deliver controller.config event).run controller.tag with
    ⟨overflow | reason | _, tag, trace⟩
  · simp [handle, run_onTag, hdeliver]
  · simp [handle, run_onTag, hdeliver, Log.warn, Outcome.map, Except.map, OfLine.ofLine]
  · simp [handle, run_onTag, hdeliver]

theorem handle_eq_ok {event : Event} {before after : Controller σ} {trace : List Entry}
    {outcome : Except HandlingError Unit}
    (hrun : (handle event).run before = ⟨.ok outcome, after, trace⟩) :
    Handled before [event] (Trace.handlings trace) (Trace.calls trace) after := by
  rw [run_handle] at hrun
  rcases hdeliver : (deliver before.config event).run before.tag with
    ⟨overflow | answer, tag, body⟩
  · rw [hdeliver] at hrun
    cases hrun
  · obtain ⟨heffect, hhandlings⟩ := deliver_eq_ok hdeliver
    have hdeliveries : Deliveries before.config before.tag.toMemory [event]
        (Trace.handlings body) (Trace.calls body) tag.toMemory := by
      rw [hhandlings, ← List.append_nil (Trace.calls body)]
      exact .cons heffect .nil
    rw [hdeliver] at hrun
    cases answer with
    | ok _ =>
      cases hrun
      exact ⟨hdeliveries, rfl, rfl, rfl⟩
    | error reason =>
      cases hrun
      refine ⟨?_, rfl, rfl, rfl⟩
      simpa using hdeliveries

/-- The handling of an event ends early only if the clock runs out in it. -/
theorem handle_eq_error {event : Event} {before after : Controller σ} {trace : List Entry}
    {overflow : ClockOverflow}
    (hrun : (handle event).run before = ⟨.error overflow, after, trace⟩) :
    Effect before.config before.tag.toMemory event (Trace.calls trace)
      (.error (.clockOverflow overflow)) after.tag.toMemory := by
  rw [run_handle] at hrun
  rcases hdeliver : (deliver before.config event).run before.tag with
    ⟨early | answer, tag, body⟩
  · rw [hdeliver] at hrun
    cases hrun
    exact deliver_eq_error hdeliver
  · rw [hdeliver] at hrun
    cases answer <;> cases hrun

theorem handleAll_eq_ok {events : List Event} {before after : Controller σ} {trace : List Entry}
    (hrun : (handleAll events).run before = ⟨.ok (), after, trace⟩) :
    Handled before events (Trace.handlings trace) (Trace.calls trace) after := by
  induction events generalizing before trace with
  | nil =>
    cases hrun
    exact ⟨.nil, rfl, rfl, rfl⟩
  | cons event rest ih =>
    obtain ⟨outcome, middle, earlier, later, hhandle, hrest, rfl⟩ := Act.run_bind_eq_ok.mp hrun
    have hfirst := handle_eq_ok hhandle
    have hsecond := ih hrest
    have hlater := hsecond.deliveries
    rw [hfirst.config] at hlater
    rw [Trace.handlings_append, Trace.calls_append]
    exact ⟨hfirst.deliveries.append hlater, hsecond.config.trans hfirst.config,
      hsecond.queue.trans hfirst.queue, hsecond.gate.trans hfirst.gate⟩

/-- Handling expiries never runs out of clock. -/
theorem handleAll_expired_total (expired : List Timer) (controller : Controller σ) :
    ∃ after trace, (handleAll (expired.map .timerExpired)).run controller =
      ⟨.ok (), after, trace⟩ := by
  induction expired generalizing controller with
  | nil => exact ⟨controller, [], rfl⟩
  | cons timer rest ih =>
    rcases hhandle : (handle (.timerExpired timer)).run controller with
      ⟨overflow | outcome, middle, trace⟩
    · obtain ⟨outcome, houtcome⟩ := result_timerExpired (handle_eq_error hhandle)
      cases outcome <;> cases houtcome
    · obtain ⟨after, later, hrest⟩ := ih middle
      exact ⟨after, trace ++ later, Act.run_bind_eq_ok.mpr
        ⟨outcome, middle, trace, later, hhandle, hrest, rfl⟩⟩

/-- A pass of the controller: the memory after the expired timers, and after the other events. -/
structure Passed (now : Instant) (woken : Option Event) (before : Controller σ)
    (handlings : List Handling) (calls : List Call) (after : Controller σ) : Prop where
  deliveries : ∃ expiries others expiryCalls otherCalls middle,
    Deliveries before.config
      { before.tag.toMemory with timers := (before.tag.timers.advance now).2 }
      ((before.tag.timers.advance now).1.map .timerExpired) expiries expiryCalls middle ∧
    Deliveries before.config middle (woken.toList ++ before.queue.events) others otherCalls
      after.tag.toMemory ∧
    handlings = expiries ++ others ∧ calls = expiryCalls ++ otherCalls
  config : after.config = before.config
  queue : after.queue = .empty
  gate : after.gate = .ofLedger after.tag.ledger

omit [Device σ] in
theorem run_expireTimers (now : Instant) (controller : Controller σ) :
    (onTag (expireTimers now)).run controller = ⟨.ok (controller.tag.timers.advance now).1,
      { controller with
        tag := { controller.tag with timers := (controller.tag.timers.advance now).2 } }, []⟩ :=
  rfl

omit [Device σ] in
theorem run_publish (controller : Controller σ) : publish.run controller =
    ⟨.ok (), { controller with gate := .ofLedger controller.tag.ledger }, []⟩ := rfl

theorem handleExpired_eq_ok {now : Instant} {before after : Controller σ} {count : Nat}
    {trace : List Entry}
    (hrun : (handleExpired now).run before = ⟨.ok count, after, trace⟩) :
    Handled { before with tag := { before.tag with timers := (before.tag.timers.advance now).2 } }
      ((before.tag.timers.advance now).1.map .timerExpired) (Trace.handlings trace)
      (Trace.calls trace) after := by
  obtain ⟨expired, moved, earlier, later, hmoved, hhandled, rfl⟩ := Act.run_bind_eq_ok.mp hrun
  rw [run_expireTimers] at hmoved
  cases hmoved
  obtain ⟨_, _, handled, _, hall, hend, rfl⟩ := Act.run_bind_eq_ok.mp hhandled
  cases hend
  simpa using handleAll_eq_ok hall

theorem handleQueued_eq_ok {before after : Controller σ} {count : Nat} {trace : List Entry}
    (hrun : handleQueued.run before = ⟨.ok count, after, trace⟩) :
    Handled { before with queue := .empty } before.queue.events (Trace.handlings trace)
      (Trace.calls trace) after := by
  obtain ⟨_, _, _, _, hget, htaken, rfl⟩ := Act.run_bind_eq_ok.mp hrun
  cases hget
  obtain ⟨_, _, _, _, hset, hhandled, rfl⟩ := Act.run_bind_eq_ok.mp htaken
  cases hset
  obtain ⟨_, _, handled, _, hall, hend, rfl⟩ := Act.run_bind_eq_ok.mp hhandled
  cases hend
  simpa using handleAll_eq_ok hall

theorem run_eq_ok {now : Instant} {woken : Option Event} {before after : Controller σ}
    {next : Option Instant} {trace : List Entry}
    (hrun : (run now woken).run before = ⟨.ok next, after, trace⟩) :
    Passed now woken before (Trace.handlings trace) (Trace.calls trace) after := by
  obtain ⟨_, expired, first, _, hexpired, hothers, rfl⟩ := Act.run_bind_eq_ok.mp hrun
  obtain ⟨_, woke, second, _, hwoken, hrest, rfl⟩ := Act.run_bind_eq_ok.mp hothers
  obtain ⟨_, drained, third, _, hqueued, hpublish, rfl⟩ := Act.run_bind_eq_ok.mp hrest
  obtain ⟨_, published, _, _, hpublished, hend, rfl⟩ := Act.run_bind_eq_ok.mp hpublish
  rw [run_publish] at hpublished
  cases hpublished
  cases hend
  have hexpiry := handleExpired_eq_ok hexpired
  have hwoke := handleAll_eq_ok hwoken
  have hdrained := handleQueued_eq_ok hqueued
  have hwokeDeliveries := hwoke.deliveries
  have hdrainedDeliveries := hdrained.deliveries
  rw [hexpiry.config] at hwokeDeliveries
  rw [hwoke.config, hexpiry.config, hwoke.queue, hexpiry.queue] at hdrainedDeliveries
  constructor
  · refine ⟨_, _, _, _, _, hexpiry.deliveries, hwokeDeliveries.append hdrainedDeliveries, ?_, ?_⟩
    · simp
    · simp
  · exact hdrained.config.trans (hwoke.config.trans hexpiry.config)
  · exact hdrained.queue
  · rfl

/-- What a move does: a pass as `Passed` says, anything else nothing to the configuration, to the
memory and to the gate. -/
inductive Moved (before : Controller σ) :
    Move σ → List Handling → List Call → Controller σ → Prop
  | pass {now : Instant} {woken : Option Event} {handlings : List Handling} {calls : List Call}
      {after : Controller σ} (hpassed : Passed now woken before handlings calls after) :
    Moved before (.pass now woken) handlings calls after
  | post {event : Event} :
    Moved before (.post event) [] []
      { before with queue := ((EventQueue.post event).run before.queue).value.2 }
  | outside {change : σ → σ} :
    Moved before (.outside change) [] []
      { before with tag := { before.tag with device := change before.tag.device } }

theorem perform_eq_ok {move : Move σ} {before after : Controller σ} {trace : List Entry}
    (hrun : (perform move).run before = ⟨.ok (), after, trace⟩) :
    Moved before move (Trace.handlings trace) (Trace.calls trace) after := by
  cases move with
  | post event =>
    obtain ⟨_, posted, earlier, _, hpost, hend, rfl⟩ := Act.run_bind_eq_ok.mp hrun
    cases hend
    cases hpost
    simpa using Moved.post
  | pass now woken =>
    obtain ⟨_, passed, earlier, _, hpass, hend, rfl⟩ := Act.run_bind_eq_ok.mp hrun
    cases hend
    rw [List.append_nil]
    exact .pass (run_eq_ok hpass)
  | outside change =>
    cases hrun
    exact .outside

end Perform

end Controller

end TagControl
