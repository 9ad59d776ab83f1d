import TagControl.Proofs.ReadWindows
/-!
Runs of a controller over its own peripherals. A pass moves the read windows to the present, which
may put reports at the end of the queue, and then handles what any pass handles (`PassedOwn`). Its
calls are all that happens to the windows after that. Between passes events are posted and the
peripherals may change by themselves, but not their windows (`MovedOwn`).
-/

set_option autoImplicit false

namespace TagControl.Controller

open Engine

/-- The read windows of a controller's own peripherals. -/
def windows (controller : Controller Peripherals) : ReadWindows :=
  controller.tag.device.windows

def withWindows (controller : Controller Peripherals) (windows : ReadWindows) :
    Controller Peripherals :=
  { controller with
    tag := { controller.tag with device := { controller.tag.device with windows } } }

/-- A pass over its own peripherals: the expired timers are handled first, and last of all the
reports of windows that were found closed. -/
structure PassedOwn (now : Instant) (woken : Option Event) (before : Controller Peripherals)
    (handlings : List Handling) (calls : List Call) (after : Controller Peripherals) : Prop where
  deliveries : ∃ reports expiries others expiryCalls otherCalls middle,
    Deliveries before.config
      { before.tag.toMemory with timers := (before.tag.timers.advance now).2 }
      ((before.tag.timers.advance now).1.map .timerExpired) expiries expiryCalls middle ∧
    Deliveries before.config middle (woken.toList ++ before.queue.events ++ reports) others
      otherCalls after.tag.toMemory ∧
    handlings = expiries ++ others ∧ calls = expiryCalls ++ otherCalls ∧
    ∀ report ∈ reports, ∃ mode, report = .readModeExited mode ∧
      (before.windows.movedTo now).closing mode = none
  windows : after.windows = (before.windows.movedTo now).afterCalls calls
  config : after.config = before.config
  queue : after.queue = .empty

theorem run_advanceWindows (now : Instant) (controller : Controller Peripherals) :
    (advanceWindows now).run controller =
      let out := (ReadWindows.advance now).run (controller.windows, controller.queue)
      ⟨.ok (), { controller with queue := out.value.2.2 }.withWindows out.value.2.1,
        out.trace.map .logged⟩ := by
  simp [advanceWindows, windows, withWindows]

theorem advanceWindows_eq_ok {now : Instant} {before after : Controller Peripherals}
    {trace : List Entry} (hrun : (advanceWindows now).run before = ⟨.ok (), after, trace⟩) :
    ∃ reports queue, Trace.calls trace = [] ∧ Trace.handlings trace = [] ∧
      queue.events = before.queue.events ++ reports ∧
      (∀ report ∈ reports, ∃ mode, report = .readModeExited mode ∧
        (before.windows.movedTo now).closing mode = none) ∧
      after = { before with queue }.withWindows (before.windows.movedTo now) := by
  obtain ⟨reports, queue, hmoved, hqueue, hreports⟩ :=
    ReadWindows.advance_report now before.windows before.queue
  rw [run_advanceWindows] at hrun
  simp only [hmoved] at hrun
  cases hrun
  exact ⟨reports, queue, by simp, by simp, hqueue, hreports, rfl⟩

theorem pass_eq_ok {now : Instant} {woken : Option Event} {before after : Controller Peripherals}
    {next : Option Instant} {trace : List Entry}
    (hrun : (pass now woken).run before = ⟨.ok next, after, trace⟩) :
    PassedOwn now woken before (Trace.handlings trace) (Trace.calls trace) after := by
  obtain ⟨_, moved, first, rest, hmoved, hpass, rfl⟩ := Act.run_bind_eq_ok.mp hrun
  obtain ⟨reports, queue, hcalls, hhandlings, hqueue, hreports, rfl⟩ := advanceWindows_eq_ok hmoved
  have hpassed := run_eq_ok hpass
  have hobeys := directs_run.obeysAll hpass
  rw [Trace.handlings_append, Trace.calls_append, hcalls, hhandlings, List.nil_append,
    List.nil_append]
  constructor
  · obtain ⟨expiries, others, expiryCalls, otherCalls, middle, hexpiries, hothers, hall, hmade⟩ :=
      hpassed.deliveries
    have hhandled : Deliveries before.config middle
        (woken.toList ++ before.queue.events ++ reports) others otherCalls after.tag.toMemory := by
      rw [List.append_assoc, ← hqueue]
      exact hothers
    exact ⟨reports, expiries, others, expiryCalls, otherCalls, middle, hexpiries, hhandled, hall,
      hmade, hreports⟩
  · exact Peripherals.windows_obeysAll hobeys
  · exact hpassed.config
  · exact hpassed.queue

/-- The moves of a controller over its own peripherals: a pass moves the windows first, and what
changes by itself leaves them alone. -/
def performOwn : Move Peripherals → Pass Peripherals Unit
  | .post event => do
    let _ ← onQueue (EventQueue.post event)
  | .pass now woken => do
    let _ ← pass now woken
  | .outside change =>
    modify fun controller ↦
      { controller with tag := { controller.tag with device := change controller.tag.device } }
        |>.withWindows controller.windows

/-- What a move does: a pass as `PassedOwn` says, anything else nothing to the configuration, to the
memory and to the windows. -/
inductive MovedOwn (before : Controller Peripherals) :
    Move Peripherals → List Handling → List Call → Controller Peripherals → Prop
  | pass {now : Instant} {woken : Option Event} {handlings : List Handling} {calls : List Call}
      {after : Controller Peripherals}
      (hpassed : PassedOwn now woken before handlings calls after) :
    MovedOwn before (.pass now woken) handlings calls after
  | post {event : Event} :
    MovedOwn before (.post event) [] []
      { before with queue := ((EventQueue.post event).run before.queue).value.2 }
  | outside {change : Peripherals → Peripherals} :
    MovedOwn before (.outside change) [] []
      ({ before with tag := { before.tag with device := change before.tag.device } }.withWindows
        before.windows)

theorem performOwn_eq_ok {move : Move Peripherals} {before after : Controller Peripherals}
    {trace : List Entry} (hrun : (performOwn move).run before = ⟨.ok (), after, trace⟩) :
    MovedOwn before move (Trace.handlings trace) (Trace.calls trace) after := by
  cases move with
  | post event =>
    obtain ⟨_, posted, earlier, _, hpost, hend, rfl⟩ := Act.run_bind_eq_ok.mp hrun
    cases hend
    cases hpost
    simpa using MovedOwn.post
  | pass now woken =>
    obtain ⟨_, passed, earlier, _, hpass, hend, rfl⟩ := Act.run_bind_eq_ok.mp hrun
    cases hend
    rw [List.append_nil]
    exact .pass (pass_eq_ok hpass)
  | outside change =>
    cases hrun
    exact .outside

end TagControl.Controller
