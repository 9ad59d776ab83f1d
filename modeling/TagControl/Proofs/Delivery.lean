import TagControl.Proofs.Frame
/-!
The delivery of events. A runner waits for an event, takes it from the queue and gives it to the
next pass; meanwhile more events may be posted. Over a whole run the events handed to the engine,
other than the expiries at the beginning of each pass, then the event in hand and then the queued
ones are exactly the accepted posts in the order of their acceptance (`Runner.Delivered`): each is
handled once and in turn, and none is held up by one that fails.
-/

set_option autoImplicit false

namespace TagControl

namespace EventQueue

/-- The answer to a post. -/
def accepts (queue : EventQueue) (event : Event) : Bool :=
  ((post event).run queue).value.1

theorem value_post (queue : EventQueue) (event : Event) : ((post event).run queue).value =
    match queue.push? event with
    | some after => (true, after)
    | none => (false, queue) := by
  unfold post
  simp only [StateT.run_bind, StateT.run_get]
  cases hpush : queue.push? event with
  | none => simp [hpush, Log.warn]
  | some after => simp [hpush]

theorem accepts_eq_false {queue : EventQueue} {event : Event} :
    queue.accepts event = false ↔ queue.size = capacity := by
  rw [accepts, value_post, ← @push?_eq_none queue event]
  cases queue.push? event <;> simp

theorem events_value_post (queue : EventQueue) (event : Event) :
    ((post event).run queue).value.2.events =
      queue.events ++ ((some event).filter queue.accepts).toList := by
  rw [value_post]
  cases hpush : queue.push? event with
  | none => simp [accepts, value_post, hpush, Option.filter]
  | some after => simp [accepts, value_post, hpush, Option.filter, events_push? hpush]

theorem events_value_postCommand (queue : EventQueue) (event : UInt32) (data : List UInt8) :
    ((postCommand event data).run queue).value.2.events = queue.events ++
      (((Command.ofCallback event data).toOption.map .commandReceived).filter
        queue.accepts).toList := by
  unfold postCommand
  cases Command.ofCallback event data with
  | error problem => simp [Except.toOption, Log.warn]
  | ok command => simpa [Except.toOption] using events_value_post queue (.commandReceived command)

theorem events_value_postReadModeExit (queue : EventQueue) (raw : UInt8) :
    ((postReadModeExit raw).run queue).value.2.events = queue.events ++
      (((ReadMode.ofByte raw).toOption.map .readModeExited).filter queue.accepts).toList := by
  unfold postReadModeExit
  cases ReadMode.ofByte raw with
  | error problem => simp [Except.toOption, Log.warn]
  | ok mode => simpa [Except.toOption] using events_value_post queue (.readModeExited mode)

theorem pop?_eq_some {queue rest : EventQueue} {event : Event}
    (hpop : queue.pop? = some (event, rest)) : queue.events = event :: rest.events := by
  unfold pop? at hpop
  split at hpop
  · cases hpop
  · next hevents =>
    cases hpop
    exact hevents

end EventQueue

def Handling.fails (handling : Handling) : Bool :=
  match handling.outcome with
  | .ok _ => false
  | .error _ => true

/-- The end of the clock shows in the present instant and in the calls, whatever else was done. -/
theorem Engine.OutOfClock.mono {config : Config} {before after : Memory} {calls more : List Call}
    (hlate : OutOfClock config before calls) (hnow : after.timers.now = before.timers.now)
    (hcalls : calls ⊆ more) : OutOfClock config after more := by
  obtain ⟨mode, overflow, hmem⟩ | ⟨wait, hwait, hlimit⟩ := hlate
  · exact .inl ⟨mode, overflow, hcalls hmem⟩
  · exact .inr ⟨wait, hwait, hnow ▸ hlimit⟩

namespace Controller

open Engine

variable {σ α β : Type}

/-! ### Counts -/

/-- The counts of events handled and abandoned have grown by those of the handlings. -/
structure Counted (before : Controller σ) (handlings : List Handling) (after : Controller σ) :
    Prop where
  handled : after.handled = before.handled + .ofNat handlings.length
  failed : after.failed = before.failed + .ofNat (handlings.countP Handling.fails)

theorem Counted.idle {before after : Controller σ} (hhandled : after.handled = before.handled)
    (hfailed : after.failed = before.failed) : Counted before [] after :=
  ⟨hhandled.trans (UInt32.add_zero _).symm, hfailed.trans (UInt32.add_zero _).symm⟩

theorem Counted.append {before middle after : Controller σ} {first second : List Handling}
    (hfirst : Counted before first middle) (hsecond : Counted middle second after) :
    Counted before (first ++ second) after where
  handled := by
    rw [hsecond.handled, hfirst.handled, List.length_append, UInt32.ofNat_add, UInt32.add_assoc]
  failed := by
    rw [hsecond.failed, hfirst.failed, List.countP_append, UInt32.ofNat_add, UInt32.add_assoc]

/-- Whatever a computation handles, it counts. -/
def Counts (act : Pass σ α) : Prop :=
  ∀ before value after trace, act.run before = ⟨.ok value, after, trace⟩ →
    Counted before (Trace.handlings trace) after

theorem counts_bind {act : Pass σ β} {next : β → Pass σ α} (hact : Counts act)
    (hnext : ∀ value, Counts (next value)) : Counts (act >>= next) := by
  intro before value after trace hrun
  obtain ⟨first, middle, earlier, later, hfirst, hsecond, rfl⟩ := Act.run_bind_eq_ok.mp hrun
  rw [Trace.handlings_append]
  exact (hact _ _ _ _ hfirst).append (hnext _ _ _ _ _ hsecond)

/-- A computation that handles nothing and leaves the counts alone. -/
theorem counts_idle {act : Pass σ α}
    (hhandlings : ∀ before, Trace.handlings (act.run before).trace = [])
    (hhandled : ∀ before, (act.run before).state.handled = before.handled)
    (hfailed : ∀ before, (act.run before).state.failed = before.failed) : Counts act := by
  intro before value after trace hrun
  have hnone := hhandlings before
  have hsame := hhandled before
  have hother := hfailed before
  rw [hrun] at hnone hsame hother
  rw [hnone]
  exact .idle hsame hother

theorem counts_pure {value : α} : Counts (pure value : Pass σ α) :=
  counts_idle (fun _ ↦ rfl) (fun _ ↦ rfl) fun _ ↦ rfl

section Device

variable [Device σ]

theorem counts_handle {event : Event} :
    Counts (handle event : Pass σ (Except HandlingError Unit)) := by
  intro before outcome after trace hrun
  rw [run_handle] at hrun
  rcases hdeliver : (deliver before.config event).run before.tag with
    ⟨overflow | answer, tag, body⟩
  · rw [hdeliver] at hrun
    cases hrun
  · obtain ⟨-, hhandlings⟩ := deliver_eq_ok hdeliver
    rw [hdeliver] at hrun
    cases answer with
    | ok _ =>
      cases hrun
      rw [hhandlings]
      exact ⟨rfl, (UInt32.add_zero _).symm⟩
    | error reason =>
      cases hrun
      rw [Trace.handlings_append, hhandlings]
      exact ⟨rfl, rfl⟩

theorem counts_handleAll {events : List Event} : Counts (handleAll events : Pass σ Unit) := by
  induction events with
  | nil => exact counts_pure
  | cons event rest ih => exact counts_bind counts_handle fun _ ↦ ih

theorem counts_run {now : Instant} {woken : Option Event} :
    Counts (run now woken : Pass σ (Option Instant)) := by
  have hget : Counts (get : Pass σ (Controller σ)) :=
    counts_idle (fun _ ↦ rfl) (fun _ ↦ rfl) fun _ ↦ rfl
  have hexpired : Counts (handleExpired now : Pass σ Nat) :=
    counts_bind (counts_idle (fun _ ↦ rfl) (fun _ ↦ rfl) fun _ ↦ rfl) fun _ ↦
      counts_bind counts_handleAll fun _ ↦ counts_pure
  have hqueued : Counts (handleQueued : Pass σ Nat) := by
    intro before count after trace hrun
    obtain ⟨_, _, _, _, hfound, htaken, rfl⟩ := Act.run_bind_eq_ok.mp hrun
    cases hfound
    obtain ⟨_, _, _, _, hset, hhandled, rfl⟩ := Act.run_bind_eq_ok.mp htaken
    cases hset
    have hall := counts_bind counts_handleAll (fun _ ↦ counts_pure) _ _ _ _ hhandled
    exact ⟨hall.handled, hall.failed⟩
  exact counts_bind hexpired fun _ ↦ counts_bind counts_handleAll fun _ ↦
    counts_bind hqueued fun _ ↦
      counts_bind (counts_idle (fun _ ↦ rfl) (fun _ ↦ rfl) fun _ ↦ rfl) fun _ ↦
        counts_bind hget fun _ ↦ counts_pure

/-! ### The end of the clock -/

/-- Events stop being handled only where a deadline lies past the last instant. -/
theorem handleAll_eq_error {events : List Event} {before after : Controller σ}
    {overflow : ClockOverflow} {trace : List Entry}
    (hrun : (handleAll events).run before = ⟨.error overflow, after, trace⟩) :
    OutOfClock before.config before.tag.toMemory (Trace.calls trace) := by
  induction events generalizing before trace with
  | nil => cases hrun
  | cons event rest ih =>
    obtain hfirst | ⟨outcome, middle, earlier, later, hhandle, hrest, rfl⟩ :=
      Act.run_bind_eq_error.mp hrun
    · exact (handle_eq_error hfirst).outOfClock
    · have hhandled := handle_eq_ok hhandle
      have hlate := ih hrest
      rw [hhandled.config] at hlate
      rw [Trace.calls_append]
      exact hlate.mono hhandled.deliveries.now.symm (List.subset_append_right _ _)

theorem handleExpired_eq_error {now : Instant} {before after : Controller σ}
    {overflow : ClockOverflow} {trace : List Entry}
    (hrun : (handleExpired now).run before = ⟨.error overflow, after, trace⟩) :
    OutOfClock before.config
      { before.tag.toMemory with timers := (before.tag.timers.advance now).2 }
      (Trace.calls trace) := by
  obtain hearly | ⟨_, _, _, _, hmoved, hrest, rfl⟩ := Act.run_bind_eq_error.mp hrun
  · cases hearly
  · rw [run_expireTimers] at hmoved
    cases hmoved
    obtain hall | ⟨_, _, _, _, _, hend, rfl⟩ := Act.run_bind_eq_error.mp hrest
    · exact handleAll_eq_error hall
    · cases hend

theorem handleQueued_eq_error {before after : Controller σ} {overflow : ClockOverflow}
    {trace : List Entry} (hrun : handleQueued.run before = ⟨.error overflow, after, trace⟩) :
    OutOfClock before.config before.tag.toMemory (Trace.calls trace) := by
  obtain hearly | ⟨_, _, _, _, hget, htaken, rfl⟩ := Act.run_bind_eq_error.mp hrun
  · cases hearly
  cases hget
  obtain hearly | ⟨_, _, _, _, hset, hhandled, rfl⟩ := Act.run_bind_eq_error.mp htaken
  · cases hearly
  cases hset
  obtain hall | ⟨_, _, _, _, _, hend, rfl⟩ := Act.run_bind_eq_error.mp hhandled
  · have hlate := handleAll_eq_error hall
    exact hlate
  · cases hend

/-- A pass is cut short only where a deadline lies past the last instant. -/
theorem run_eq_error {now : Instant} {woken : Option Event} {before after : Controller σ}
    {overflow : ClockOverflow} {trace : List Entry}
    (hrun : (run now woken).run before = ⟨.error overflow, after, trace⟩) :
    OutOfClock before.config
      { before.tag.toMemory with timers := (before.tag.timers.advance now).2 }
      (Trace.calls trace) := by
  obtain hexpired | ⟨_, expired, _, _, hexpired, hothers, rfl⟩ := Act.run_bind_eq_error.mp hrun
  · exact handleExpired_eq_error hexpired
  have hexpiry := handleExpired_eq_ok hexpired
  rw [Trace.calls_append]
  obtain hwoken | ⟨_, woke, _, _, hwoken, hrest, rfl⟩ := Act.run_bind_eq_error.mp hothers
  · have hlate := handleAll_eq_error hwoken
    rw [hexpiry.config] at hlate
    exact hlate.mono hexpiry.deliveries.now.symm (List.subset_append_right _ _)
  have hwoke := handleAll_eq_ok hwoken
  rw [Trace.calls_append]
  obtain hqueued | ⟨_, _, _, _, _, hpublish, rfl⟩ := Act.run_bind_eq_error.mp hrest
  · have hlate := handleQueued_eq_error hqueued
    rw [hwoke.config, hexpiry.config] at hlate
    refine hlate.mono (hwoke.deliveries.now.trans hexpiry.deliveries.now).symm ?_
    exact List.subset_append_of_subset_right _ (List.subset_append_right _ _)
  · cases hpublish

end Device

end Controller

/-! ### Runners -/

/-- A controller and the event that was taken from its queue for the next pass, if there is one. -/
structure Runner (σ : Type) where
  controller : Controller σ
  hand : Option Event := none

namespace Runner

open Controller Engine

variable {σ α : Type}

/-- What can happen to a runner. Payloads of callbacks are read before they are posted; an event is
received into an empty hand, and a pass is given what is in hand. -/
inductive Action (σ : Type) where
  | post (event : Event)
  | postCommand (event : UInt32) (data : List UInt8)
  | postReadModeExit (raw : UInt8)
  | receive
  | pass (now : Instant)
  | outside (change : σ → σ)

/-- The event that an action posts. -/
def Action.posts : Action σ → Option Event
  | .post event => some event
  | .postCommand event data => (Command.ofCallback event data).toOption.map .commandReceived
  | .postReadModeExit raw => (ReadMode.ofByte raw).toOption.map .readModeExited
  | _ => none

def onController (act : Pass σ α) : Act Entry ClockOverflow (Runner σ) α :=
  ⟨fun runner ↦
    let out := act.run runner.controller
    ⟨out.result, { runner with controller := out.state }, out.trace⟩⟩

theorem run_onQueue (act : Logged EventQueue α) (runner : Runner σ) :
    (onController (onQueue act)).run runner =
      let out := act.run runner.controller.queue
      ⟨.ok out.value.1,
        { runner with controller := { runner.controller with queue := out.value.2 } },
        out.trace.map .logged⟩ := rfl

/-- The runner with the first event of the queue in hand. -/
def received (runner : Runner σ) : Runner σ :=
  match runner.hand, runner.controller.queue.pop? with
  | none, some (event, queue) =>
    { controller := { runner.controller with queue }, hand := some event }
  | _, _ => runner

/-- The event that an action puts into the queue. -/
def accepted (before : Runner σ) (action : Action σ) : Option Event :=
  action.posts.filter before.controller.queue.accepts

/-- The events that an action hands to the engine, but for the expiries with which a pass begins. -/
def handed (before : Runner σ) (action : Action σ) (handlings : List Handling) : List Event :=
  match action with
  | .pass now => (handlings.map (·.event)).drop (before.controller.tag.timers.advance now).1.length
  | _ => []

/-- The events that wait to be handled, in order. -/
def waiting (runner : Runner σ) : List Event :=
  runner.hand.toList ++ runner.controller.queue.events

/-- What an action does to the events and to the counts. -/
structure Acted (before : Runner σ) (action : Action σ) (handlings : List Handling)
    (after : Runner σ) : Prop where
  waiting : handed before action handlings ++ after.waiting =
    before.waiting ++ (accepted before action).toList
  counted : Counted before.controller handlings after.controller
  posts : ∀ event ∈ action.posts, after.controller.queue.events =
    before.controller.queue.events ++ (accepted before action).toList
  passes : ∀ now, action = .pass now → ∃ expired,
    Timers.Expired before.controller.tag.timers now expired ∧
      handlings.map (·.event) = expired.map .timerExpired ++ before.waiting ∧
      after.waiting = []

theorem Acted.queued (before : Runner σ) (action : Action σ) {queue : EventQueue}
    (hposts : ∀ now, action ≠ .pass now)
    (hqueue : queue.events =
      before.controller.queue.events ++ (accepted before action).toList) :
    Acted before action [] { before with controller := { before.controller with queue } } where
  waiting := by
    have hnone : handed before action [] = [] := by cases action <;> simp [handed]
    rw [hnone]
    simp [Runner.waiting, hqueue]
  counted := .idle rfl rfl
  posts event hevent := hqueue
  passes now hpass := absurd hpass (hposts now)

theorem waiting_received (runner : Runner σ) : runner.received.waiting = runner.waiting := by
  unfold received
  split
  · next hhand hpop => simp [Runner.waiting, hhand, EventQueue.pop?_eq_some hpop]
  · rfl

theorem Acted.passed {before : Runner σ} {now : Instant} {handlings : List Handling}
    {calls : List Call} {after : Controller σ}
    (hpassed : Passed now before.hand before.controller handlings calls after)
    (hcounted : Counted before.controller handlings after) :
    Acted before (.pass now) handlings { controller := after } := by
  obtain ⟨expiries, others, expiryCalls, otherCalls, middle, hexpiries, hothers, rfl, -⟩ :=
    hpassed.deliveries
  have hevents : (expiries ++ others).map (·.event) =
      (before.controller.tag.timers.advance now).1.map .timerExpired ++ before.waiting := by
    rw [List.map_append, hexpiries.map_event, hothers.map_event]
    rfl
  have hnone : Runner.waiting { controller := after } = [] := by
    simp [Runner.waiting, hpassed.queue, EventQueue.empty]
  constructor
  · have hdropped : handed before (.pass now) (expiries ++ others) = before.waiting := by
      simp [handed, hevents]
    rw [hdropped, hnone]
    rfl
  · exact hcounted
  · simp [Action.posts]
  · rintro _ ⟨⟩
    exact ⟨_, Timers.expired_advance _ _, hevents, hnone⟩

section Perform

variable [Device σ]

def perform : Action σ → Act Entry ClockOverflow (Runner σ) Unit
  | .post event => do
    let _ ← onController (onQueue (EventQueue.post event))
  | .postCommand event data => do
    let _ ← onController (onQueue (EventQueue.postCommand event data))
  | .postReadModeExit raw => do
    let _ ← onController (onQueue (EventQueue.postReadModeExit raw))
  | .receive => modify received
  | .pass now => do
    let hand := (← get).hand
    modify fun runner ↦ { runner with hand := none }
    let _ ← onController (Controller.run now hand)
  | .outside change => onController (Controller.perform (.outside change))

theorem perform_eq_ok {action : Action σ} {before after : Runner σ} {trace : List Entry}
    (hrun : (perform action).run before = ⟨.ok (), after, trace⟩) :
    Acted before action (Trace.handlings trace) after := by
  cases action with
  | post event =>
    cases hrun
    have hacted := Acted.queued before (.post event) (fun _ ↦ nofun)
      (EventQueue.events_value_post _ event)
    simpa [run_onQueue] using hacted
  | postCommand event data =>
    cases hrun
    have hacted := Acted.queued before (.postCommand event data) (fun _ ↦ nofun)
      (EventQueue.events_value_postCommand _ event data)
    simpa [run_onQueue] using hacted
  | postReadModeExit raw =>
    cases hrun
    have hacted := Acted.queued before (.postReadModeExit raw) (fun _ ↦ nofun)
      (EventQueue.events_value_postReadModeExit _ raw)
    simpa [run_onQueue] using hacted
  | receive =>
    cases hrun
    have hcounted : Counted before.controller [] before.received.controller := by
      unfold received
      split <;> exact .idle rfl rfl
    refine ⟨?_, hcounted, nofun, nofun⟩
    simp [handed, waiting_received, accepted, Action.posts]
  | pass now =>
    obtain ⟨_, _, _, _, hget, hrest, rfl⟩ := Act.run_bind_eq_ok.mp hrun
    cases hget
    obtain ⟨_, _, _, _, hclear, hgiven, rfl⟩ := Act.run_bind_eq_ok.mp hrest
    cases hclear
    obtain ⟨next, _, _, _, hpass, hend, rfl⟩ := Act.run_bind_eq_ok.mp hgiven
    cases hend
    rw [List.append_nil]
    rcases hrun : (Controller.run now before.hand).run before.controller with
      ⟨result, controller, body⟩
    simp only [onController, hrun] at hpass
    cases hpass
    exact .passed (run_eq_ok hrun) (counts_run _ _ _ _ hrun)
  | outside change =>
    cases hrun
    refine ⟨?_, .idle rfl rfl, nofun, nofun⟩
    exact (List.append_nil _).symm

/-- At some pass a deadline lies past the last instant. -/
def CutShort (start : Runner σ) (actions : List (Action σ)) : Prop :=
  ∃ earlier now later run, actions = earlier ++ .pass now :: later ∧
    Run.follow perform start earlier = .ok run ∧
    OutOfClock run.state.controller.config
      { run.state.controller.tag.toMemory with
        timers := (run.state.controller.tag.timers.advance now).2 }
      (Trace.calls ((perform (.pass now)).run run.state).trace)

theorem cutShort_of_follow_eq_error {start : Runner σ} {actions : List (Action σ)}
    {overflow : ClockOverflow} (hfollow : Run.follow perform start actions = .error overflow) :
    CutShort start actions := by
  obtain ⟨earlier, action, later, run, hactions, hrun, hresult⟩ := Run.follow_eq_error hfollow
  cases action with
  | pass now =>
    refine ⟨earlier, now, later, run, hactions, hrun, ?_⟩
    rcases hpass : (Controller.run now run.state.hand).run run.state.controller with
      ⟨early | next, controller, body⟩
    · have hlate := run_eq_error hpass
      simpa [perform, onController, hpass] using hlate
    · simp [perform, onController, hpass, Except.map] at hresult
  | _ => cases hresult

/-! ### Whole runs -/

section Steps

omit [Device σ]

/-- The events that some steps hand to the engine, but for the expiries with which a pass begins. -/
def handedIn (steps : List (Step (Runner σ) (Action σ))) : List Event :=
  steps.flatMap fun step ↦ handed step.before step.move (Trace.handlings step.trace)

/-- The events that some steps put into the queue, in the order of their acceptance. -/
def acceptedIn (steps : List (Step (Runner σ) (Action σ))) : List Event :=
  steps.flatMap fun step ↦ (accepted step.before step.move).toList

theorem handedIn_append (first second : List (Step (Runner σ) (Action σ))) :
    handedIn (first ++ second) = handedIn first ++ handedIn second :=
  List.flatMap_append

theorem acceptedIn_append (first second : List (Step (Runner σ) (Action σ))) :
    acceptedIn (first ++ second) = acceptedIn first ++ acceptedIn second :=
  List.flatMap_append

end Steps

/-- Of the events of a run none is lost, handled twice or out of turn. -/
structure Delivered (run : Run (Runner σ) (Action σ)) : Prop where
  /-- A post is refused exactly if the queue is full, and then leaves it as it was. -/
  posts : ∀ step ∈ run.steps, ∀ event ∈ step.move.posts,
    (step.before.controller.queue.accepts event = false ↔
      step.before.controller.queue.size = 16) ∧
    step.after.controller.queue.events =
      if step.before.controller.queue.accepts event then
        step.before.controller.queue.events ++ [event]
      else step.before.controller.queue.events
  /-- A pass handles the expiries of the timers that are due, the earliest first, then the event in
  hand, then all that is queued, whichever of them fail. -/
  passes : ∀ step ∈ run.steps, ∀ now, step.move = .pass now → ∃ expired,
    Timers.Expired step.before.controller.tag.timers now expired ∧
      (Trace.handlings step.trace).map (·.event) =
        expired.map .timerExpired ++ step.before.hand.toList ++
          step.before.controller.queue.events ∧
      step.after.hand = none ∧ step.after.controller.queue.events = []
  /-- What was handed to the engine and what still waits is what was accepted, in order. -/
  order : handedIn run.steps ++ run.state.hand.toList ++ run.state.controller.queue.events =
    acceptedIn run.steps
  handled : run.state.controller.handled.toNat = (Trace.handlings run.trace).length % UInt32.size
  failed : run.state.controller.failed.toNat =
    (Trace.handlings run.trace).countP Handling.fails % UInt32.size

section Follow

variable {start : Runner σ} {actions : List (Action σ)} {run : Run (Runner σ) (Action σ)}
  (hfollow : Run.follow perform start actions = .ok run)

include hfollow

theorem acted_of_follow : ∀ step ∈ run.steps,
    Acted step.before step.move (Trace.handlings step.trace) step.after := by
  intro step hstep
  obtain ⟨earlier, later, hsteps⟩ := List.append_of_mem hstep
  exact perform_eq_ok (Run.follow_before_step hfollow hsteps).2.2

/-- What a run has handed on and what still waits is what waited at first and what was accepted. -/
theorem waiting_of_follow :
    handedIn run.steps ++ run.state.waiting = start.waiting ++ acceptedIn run.steps := by
  refine Run.follow_induction hfollow (motive := fun run ↦
    handedIn run.steps ++ run.state.waiting = start.waiting ++ acceptedIn run.steps)
    (List.append_nil _).symm ?_
  intro earlier action trace after hearlier _ hrun
  have hstep := (perform_eq_ok hrun).waiting
  rw [Run.steps_append, Run.state_append, handedIn_append, acceptedIn_append, List.append_assoc,
    ← List.append_assoc start.waiting, ← hearlier, List.append_assoc]
  simpa [handedIn, acceptedIn] using hstep

theorem counted_of_follow :
    Counted start.controller (Trace.handlings run.trace) run.state.controller := by
  refine Run.follow_induction hfollow (motive := fun run ↦
    Counted start.controller (Trace.handlings run.trace) run.state.controller) (.idle rfl rfl) ?_
  intro earlier action trace after hearlier _ hrun
  rw [Run.trace_append, Trace.handlings_append]
  exact hearlier.append (perform_eq_ok hrun).counted

/-- A run that begins with nothing waiting and nothing counted delivers its events. -/
theorem delivered_of_follow (hidle : start.waiting = []) (hhandled : start.controller.handled = 0)
    (hfailed : start.controller.failed = 0) : Delivered run := by
  have hacted := acted_of_follow hfollow
  have hcounted := counted_of_follow hfollow
  constructor
  · intro step hstep event hevent
    refine ⟨EventQueue.accepts_eq_false, ?_⟩
    have hposted : step.move.posts = some event := hevent
    rw [(hacted step hstep).posts event hevent, accepted, hposted]
    cases haccepts : step.before.controller.queue.accepts event <;>
      simp [Option.filter, haccepts]
  · intro step hstep now hpass
    obtain ⟨expired, hexpired, hevents, hnone⟩ := (hacted step hstep).passes now hpass
    refine ⟨expired, hexpired, ?_, ?_⟩
    · rw [hevents, waiting, List.append_assoc]
    · simpa [waiting] using hnone
  · have horder := waiting_of_follow hfollow
    rw [hidle, List.nil_append] at horder
    rw [List.append_assoc]
    exact horder
  · rw [hcounted.handled, hhandled, UInt32.zero_add]
    rfl
  · rw [hcounted.failed, hfailed, UInt32.zero_add]
    rfl

end Follow

/-- In every run from power-on, whatever is posted and whichever events fail: a run that is not cut
short by the end of the clock delivers its events. -/
theorem events_handled_once_in_order (config : Config) (start : Instant) (bringUp : Traced Line σ)
    (actions : List (Action σ)) :
    (∃ run, Run.follow perform { controller := (powerOn config start bringUp).value } actions =
        .ok run ∧ Delivered run) ∨
      CutShort { controller := (powerOn config start bringUp).value } actions := by
  cases hfollow : Run.follow perform { controller := (powerOn config start bringUp).value }
      actions with
  | ok run => exact .inl ⟨run, rfl, delivered_of_follow hfollow rfl rfl rfl⟩
  | error overflow => exact .inr (cutShort_of_follow_eq_error hfollow)

/-- An event taken off the queue is handled before one posted since. -/
example : (Run.follow perform { controller := (powerOn {} 0 (Peripherals.create {} 0)).value }
    [.post .clockSynced, .receive, .post .accountKeyWritten, .pass 0]).toOption.map
      (fun run ↦ (Trace.handlings run.trace).map (·.event)) =
    some [.clockSynced, .accountKeyWritten] := rfl

end Perform

end Runner

end TagControl
