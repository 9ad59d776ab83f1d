import TagControl.Proofs.WindowsInStep
/-!
Open read windows and the modes they belong to. An active mode has its window open, but an open
window need not have its mode active: when a window closes, its mode ends by the expiry of the
timer, and a re-entry that is already queued opens both again before the report of the closed
window is handled. That report does not say which opening it ends, so it ends the mode that was
just entered and leaves the window open (`Controller.CutsOff`). In every run whose events are
genuine this is the only way in which a window is left open without its mode
(`Controller.open_windows_active_iff_none_cut_off`).
-/

set_option autoImplicit false

namespace TagControl

/-- Whether an event says that a time is over: a timer has expired, or a read window has closed. -/
def Event.tellsTime : Event → Bool
  | .readModeExited _ => true
  | .timerExpired _ => true
  | _ => false

theorem Mode.ofReadMode_inj {first second : ReadMode} :
    Mode.ofReadMode first = Mode.ofReadMode second ↔ first = second := by
  cases first <;> cases second <;> decide

theorem Handling.opens_of_tellsTime {handling : Handling} (mode : Mode)
    (htells : handling.event.tellsTime = true) : handling.opens mode = false := by
  obtain ⟨memory, event, outcome⟩ := handling
  cases event with
  | readModeExited exited => rfl
  | timerExpired timer => rfl
  | _ => cases htells

namespace Engine

section Deliveries

variable {config : Config} {before after : Memory} {events : List Event}
  {handlings : List Handling} {calls : List Call}

/-- Whether the report of a closed window is among the events handled. -/
def reportsExit (mode : ReadMode) (handlings : List Handling) : Bool :=
  handlings.any (·.event = .readModeExited mode)

theorem reportsExit_append (mode : ReadMode) (first second : List Handling) :
    reportsExit mode (first ++ second) = (reportsExit mode first || reportsExit mode second) :=
  List.any_append

theorem Deliveries.reportsExit_iff
    (hdeliveries : Deliveries config before events handlings calls after) (mode : ReadMode) :
    reportsExit mode handlings = true ↔ .readModeExited mode ∈ events := by
  rw [← hdeliveries.map_event]
  simp [reportsExit]

theorem Deliveries.any_opens_of_tellsTime
    (hdeliveries : Deliveries config before events handlings calls after)
    (htells : ∀ event ∈ events, event.tellsTime = true) (mode : Mode) :
    handlings.any (Handling.opens mode) = false := by
  rw [List.any_eq_false]
  intro handling hmem
  have hevent : handling.event ∈ events := by
    rw [← hdeliveries.map_event]
    exact List.mem_map_of_mem hmem
  simp [Handling.opens_of_tellsTime mode (htells _ hevent)]

theorem Effect.isActive_of_not_tellsTime {event : Event} {outcome : Except HandlingError Unit}
    (heffect : Effect config before event calls (outcome.mapError .failed) after)
    (htells : event.tellsTime = false) (mode : Mode) : after.ledger.isActive mode =
      (before.ledger.isActive mode || Handling.opens mode ⟨before, event, outcome⟩) := by
  have hactive : after.ledger.isActive mode = _ := congrArg Prod.fst (heffect.window mode)
  rw [hactive]
  cases hopens : Handling.opens mode ⟨before, event, outcome⟩ with
  | true => simp [Handling.window_of_opens config hopens]
  | false =>
    cases event with
    | readModeExited exited => cases htells
    | timerExpired timer => cases htells
    | _ => simp [Handling.window, hopens, Memory.window]

/-- Events that do not tell that a time is over only open modes. -/
theorem Deliveries.isActive_of_not_tellsTime
    (hdeliveries : Deliveries config before events handlings calls after)
    (htells : ∀ event ∈ events, event.tellsTime = false) (mode : Mode) :
    after.ledger.isActive mode =
      (before.ledger.isActive mode || handlings.any (Handling.opens mode)) := by
  induction hdeliveries with
  | nil => simp
  | cons heffect hrest ih =>
    rw [List.forall_mem_cons] at htells
    obtain ⟨hfirst, hlater⟩ := htells
    rw [ih hlater, heffect.isActive_of_not_tellsTime hfirst, List.any_cons, Bool.or_assoc]

/-- Reports of closed windows end the modes that they name, and no other. -/
theorem Deliveries.isActive_reported
    (hdeliveries : Deliveries config before events handlings calls after)
    (hreports : ∀ event ∈ events, ∃ exited, event = .readModeExited exited) (mode : ReadMode) :
    after.ledger.isActive (.ofReadMode mode) =
      (before.ledger.isActive (.ofReadMode mode) && .readModeExited mode ∉ events) := by
  induction hdeliveries with
  | nil => simp
  | cons heffect hrest ih =>
    rw [List.forall_mem_cons] at hreports
    obtain ⟨⟨exited, rfl⟩, hlater⟩ := hreports
    have hactive := congrArg Prod.fst (heffect.window (.ofReadMode mode))
    simp only [Memory.window, Handling.window, Mode.ofReadMode_inj] at hactive
    rw [ih hlater, hactive]
    by_cases hmode : exited = mode
    · simp [hmode]
    · simp [hmode, Ne.symm hmode]

end Deliveries

end Engine

namespace Controller

open Engine

variable {config : Config} {now : Instant} {woken : Option Event}
  {before after : Controller Peripherals} {handlings : List Handling} {calls : List Call}

/-- Every open read window has its mode active. -/
def OpenActive (controller : Controller Peripherals) : Prop :=
  ∀ mode : ReadMode, controller.windows.isOpen mode = true →
    controller.tag.ledger.isActive (.ofReadMode mode) = true

theorem openActive_powerOn (config : Config) (start : Instant) :
    OpenActive (powerOn config start (Peripherals.create config start)).value := by
  intro mode hopen
  cases mode <;> cases hopen

/-- If a window is still open when it is moved to the present, its mode is active and the timer does
not expire. -/
theorem OpenActive.advance (hopen : OpenActive before) (hkeeps : KeepsStep config before)
    {mode : ReadMode} (hstill : ((before.windows.movedTo now).closing mode).isSome = true) :
    (before.tag.ledger.isActive (.ofReadMode mode) &&
      decide ((Mode.ofReadMode mode).timer ∉ (before.tag.timers.advance now).1)) = true := by
  rw [ReadWindows.closing_movedTo, hkeeps.inStep.now] at hstill
  obtain ⟨closing, hfiltered⟩ := Option.isSome_iff_exists.mp hstill
  obtain ⟨hclosing, hlater⟩ := Option.filter_eq_some_iff.mp hfiltered
  have hactive : before.tag.ledger.isActive (.ofReadMode mode) = true :=
    hopen mode (Option.isSome_iff_exists.mpr ⟨closing, hclosing⟩)
  have hdeadline : before.tag.timers.deadline (Mode.ofReadMode mode).timer = some closing :=
    (hkeeps.inStep.backed mode hactive).2.symm.trans hclosing
  have hunexpired : (Mode.ofReadMode mode).timer ∉ (before.tag.timers.advance now).1 := by
    intro hexpired
    obtain ⟨reached, hreached, hle⟩ := Timers.mem_advance.mp hexpired
    rw [hdeadline, Option.some.injEq] at hreached
    subst hreached
    exact absurd hle (Nat.not_le.mpr (by simpa using hlater))
  rw [hactive, decide_eq_true hunexpired]
  rfl

/-- The read window of a mode closes anew if the pass opens it, and otherwise as before. -/
theorem PassedOwn.closing (hpassed : PassedOwn now woken before handlings calls after)
    (mode : ReadMode) : after.windows.closing mode =
      if handlings.any (Handling.opens (.ofReadMode mode)) then
        some ((before.windows.movedTo now).now + before.windows.length mode)
      else (before.windows.movedTo now).closing mode := by
  obtain ⟨reports, expiries, others, expiryCalls, otherCalls, middle, hexpiries, hothers, rfl, rfl,
    -⟩ := hpassed.deliveries
  have hnone := hexpiries.any_opens_of_tellsTime (by simp [Event.tellsTime]) (.ofReadMode mode)
  rw [hpassed.windows, ReadWindows.afterCalls_append, hexpiries.afterCalls (by simp),
    hothers.closing, List.any_append, hnone, Bool.false_or, ReadWindows.length_movedTo]

section Genuine

variable (hpassed : PassedOwn now woken before handlings calls after)
  (hgenuine : ∀ event ∈ woken.toList ++ before.queue.events, event.tellsTime = false)

include hpassed hgenuine

/-- If no exit is forged, a window whose exit is reported has been closed in this pass. -/
theorem PassedOwn.closed_of_reportsExit {mode : ReadMode}
    (hreported : reportsExit mode handlings = true) :
    (before.windows.movedTo now).closing mode = none := by
  obtain ⟨reports, expiries, others, expiryCalls, otherCalls, middle, hexpiries, hothers, rfl, rfl,
    hreports⟩ := hpassed.deliveries
  rw [reportsExit_append, Bool.or_eq_true, hexpiries.reportsExit_iff, hothers.reportsExit_iff,
    List.mem_append] at hreported
  obtain hexpired | hasked | hreport := hreported
  · simp at hexpired
  · cases hgenuine _ hasked
  · obtain ⟨exited, hexited, hclosed⟩ := hreports _ hreport
    cases hexited
    exact hclosed

/-- If no exit or expiry is forged, a mode is active after a pass if it was active and its timer did
not expire, or if it was opened, unless its exit is reported: the report is handled last. -/
theorem PassedOwn.isActive (mode : ReadMode) : after.tag.ledger.isActive (.ofReadMode mode) =
      (((before.tag.ledger.isActive (.ofReadMode mode) &&
          decide ((Mode.ofReadMode mode).timer ∉ (before.tag.timers.advance now).1)) ||
        handlings.any (Handling.opens (.ofReadMode mode))) && !reportsExit mode handlings) := by
  obtain ⟨reports, expiries, others, expiryCalls, otherCalls, middle, hexpiries, hothers, rfl, rfl,
    hreports⟩ := hpassed.deliveries
  obtain ⟨asked, earlier, later, _, _, hearlier, hlater, rfl, rfl⟩ := hothers.append_inv
  have hreported : ∀ report ∈ reports, ∃ exited, report = .readModeExited exited := by
    intro report hreport
    obtain ⟨exited, rfl, -⟩ := hreports report hreport
    exact ⟨exited, rfl⟩
  have hexpired : middle.ledger.isActive (.ofReadMode mode) = _ :=
    congrArg Prod.fst (hexpiries.window_expired (.ofReadMode mode))
  have hnone := hexpiries.any_opens_of_tellsTime (by simp [Event.tellsTime]) (.ofReadMode mode)
  have hnever := hlater.any_opens_of_tellsTime
    (fun report hreport ↦ by obtain ⟨exited, rfl⟩ := hreported report hreport; rfl)
    (.ofReadMode mode)
  have hfirst : reportsExit mode expiries = false := by
    rw [Bool.eq_false_iff, Ne, hexpiries.reportsExit_iff]
    simp
  have hsecond : reportsExit mode earlier = false := by
    rw [Bool.eq_false_iff, Ne, hearlier.reportsExit_iff]
    intro hexited
    cases hgenuine _ hexited
  have hthird : reportsExit mode later = decide (.readModeExited mode ∈ reports) := by
    rw [Bool.eq_iff_iff, hlater.reportsExit_iff, decide_eq_true_eq]
  -- the reports come last, so they end whatever the events before them opened
  rw [hlater.isActive_reported hreported, hearlier.isActive_of_not_tellsTime hgenuine, hexpired,
    reportsExit_append, reportsExit_append, hfirst, hsecond, hthird, List.any_append,
    List.any_append, hnone, hnever]
  simp

end Genuine

/-- A mode is opened, or opened anew, among the events handled, and the report that its window had
closed is handled with them. -/
def CutsOff (mode : ReadMode) (handlings : List Handling) : Prop :=
  handlings.any (Handling.opens (.ofReadMode mode)) = true ∧ reportsExit mode handlings = true

instance (mode : ReadMode) (handlings : List Handling) : Decidable (CutsOff mode handlings) :=
  inferInstanceAs (Decidable (_ ∧ _))

theorem PassedOwn.openActive_iff (hpassed : PassedOwn now woken before handlings calls after)
    (hkeeps : KeepsStep config before) (hopen : OpenActive before)
    (hgenuine : ∀ event ∈ woken.toList ++ before.queue.events, event.tellsTime = false) :
    OpenActive after ↔ ∀ mode, ¬CutsOff mode handlings := by
  refine forall_congr' fun mode ↦ ?_
  have hclosing := hpassed.closing mode
  have hactive := hpassed.isActive hgenuine mode
  have hclosed : reportsExit mode handlings = true → _ := hpassed.closed_of_reportsExit hgenuine
  unfold CutsOff ReadWindows.isOpen
  rw [hclosing, hactive]
  cases hopens : handlings.any (Handling.opens (.ofReadMode mode)) with
  | true => simp
  | false =>
    simp only [Bool.false_eq_true, if_false, Bool.or_false, false_and, not_false_eq_true, iff_true]
    intro hstill
    have hunreported : reportsExit mode handlings = false := by
      by_contra hreported
      rw [hclosed (by simpa using hreported)] at hstill
      cases hstill
    rw [hopen.advance hkeeps hstill, hunreported]
    rfl

/-! ### Whole runs -/

/-- The event that a move brings from outside. -/
def Move.brings {σ : Type} : Move σ → Option Event
  | .post event => some event
  | .pass _ woken => woken
  | .outside _ => none

/-- The queue holds no report of a closed window and no expiry of a timer: between passes these come
only from outside. -/
def QueueGenuine (controller : Controller Peripherals) : Prop :=
  ∀ event ∈ controller.queue.events, event.tellsTime = false

theorem QueueGenuine.move {move : Move Peripherals} (hqueue : QueueGenuine before)
    (hmoved : MovedOwn before move handlings calls after)
    (hgenuine : ∀ event ∈ move.brings, event.tellsTime = false) : QueueGenuine after := by
  cases hmoved with
  | outside => exact hqueue
  | pass hpassed =>
    unfold QueueGenuine
    rw [hpassed.queue]
    exact List.forall_mem_nil _
  | post =>
    rename_i posted
    unfold QueueGenuine
    obtain hqueued | hlost := EventQueue.events_post before.queue posted
    · rw [hqueued, List.forall_mem_append, List.forall_mem_singleton]
      exact ⟨hqueue, hgenuine posted rfl⟩
    · rw [hlost]
      exact hqueue

theorem OpenActive.move_iff {move : Move Peripherals} (hopen : OpenActive before)
    (hkeeps : KeepsStep config before) (hqueue : QueueGenuine before)
    (hmoved : MovedOwn before move handlings calls after)
    (hgenuine : ∀ event ∈ move.brings, event.tellsTime = false) :
    OpenActive after ↔ ∀ mode, ¬CutsOff mode handlings := by
  cases hmoved with
  | outside => exact iff_of_true hopen (by simp [CutsOff])
  | post => exact iff_of_true hopen (by simp [CutsOff])
  | pass hpassed =>
    refine hpassed.openActive_iff hkeeps hopen ?_
    rw [List.forall_mem_append]
    exact ⟨fun event hwoken ↦ hgenuine event (Option.mem_toList.mp hwoken), hqueue⟩

/-- If exits are reported only by the windows and expiries only by the timers, then every open read
window has its mode active throughout a run exactly if no pass of it handles an entry into a mode
and then the report that the window of that mode had closed. -/
theorem open_windows_active_iff_none_cut_off (config : Config) (start : Instant)
    (moves : List (Move Peripherals))
    (hgenuine : ∀ move ∈ moves, ∀ event ∈ move.brings, event.tellsTime = false)
    (run : Run (Controller Peripherals) (Move Peripherals))
    (hfollow : Run.follow performOwn
      (powerOn config start (Peripherals.create config start)).value moves = .ok run) :
    (∀ controller ∈ run.states, ∀ mode : ReadMode, controller.windows.isOpen mode = true →
      controller.tag.ledger.isActive (.ofReadMode mode) = true) ↔
    ∀ step ∈ run.steps, ∀ mode, ¬CutsOff mode (Trace.handlings step.trace) := by
  have hinvariant : KeepsStep config run.state ∧ QueueGenuine run.state ∧
      ((∀ controller ∈ run.states, OpenActive controller) ↔
        ∀ step ∈ run.steps, ∀ mode, ¬CutsOff mode (Trace.handlings step.trace)) := by
    refine Run.follow_induction hfollow (motive := fun run ↦ KeepsStep config run.state ∧
      QueueGenuine run.state ∧ ((∀ controller ∈ run.states, OpenActive controller) ↔
        ∀ step ∈ run.steps, ∀ mode, ¬CutsOff mode (Trace.handlings step.trace))) ?_ ?_
    · refine ⟨keepsStep_powerOn config start, List.forall_mem_nil _, ?_⟩
      simpa [Run.states] using openActive_powerOn config start
    · rintro earlier move trace after ⟨hkeeps, hqueue, hearlier⟩ hmove hrun
      have hmoved := performOwn_eq_ok hrun
      refine ⟨hkeeps.move hmoved, hqueue.move hmoved (hgenuine move hmove), ?_⟩
      rw [Run.states_append, Run.steps_append, List.forall_mem_append, List.forall_mem_append,
        ← hearlier, List.forall_mem_singleton, List.forall_mem_singleton]
      refine and_congr_right fun hopen ↦ ?_
      exact (hopen _ earlier.state_mem_states).move_iff hkeeps hqueue hmoved (hgenuine move hmove)
  exact hinvariant.2.2

/-- Recovery mode entered anew while its window is open, until the window closes: the report finds
the mode ended by its timer, and no pass cuts an entry off. -/
theorem closed_window_ends_mode :
    ∃ run, Run.follow performOwn (powerOn {} 0 (Peripherals.create {} 0)).value
        [.post (.provisioningChanged true), .post (.requested .recovery), .pass 0 none,
          .post (.requested .recovery), .pass 30000000 none, .pass 90000000 none] = .ok run ∧
      run.state.tag.ledger.recovery = false ∧
      ∀ controller ∈ run.states, ∀ mode : ReadMode, controller.windows.isOpen mode = true →
        controller.tag.ledger.isActive (.ofReadMode mode) = true := by
  obtain ⟨run, hrun, hended, hnone⟩ : ∃ run,
      Run.follow performOwn (powerOn {} 0 (Peripherals.create {} 0)).value
        [.post (.provisioningChanged true), .post (.requested .recovery), .pass 0 none,
          .post (.requested .recovery), .pass 30000000 none, .pass 90000000 none] = .ok run ∧
      run.state.tag.ledger.recovery = false ∧
      (run.steps.all fun step ↦ [.recovery, .identification].all fun mode ↦
        !decide (CutsOff mode (Trace.handlings step.trace))) = true :=
    ⟨_, rfl, by decide +kernel, by decide +kernel⟩
  refine ⟨run, hrun, hended, (open_windows_active_iff_none_cut_off {} 0 _ ?_ run hrun).mpr ?_⟩
  · simp [Move.brings, Event.tellsTime]
  · intro step hstep mode
    have hmodes := List.all_eq_true.mp hnone step hstep
    cases mode with
    | recovery => simpa using List.all_eq_true.mp hmodes .recovery (by simp)
    | identification => simpa using List.all_eq_true.mp hmodes .identification (by simp)

/-- A provisioned tag is asked for recovery mode again, and the request is still queued when the
window closes. The pass opens the window anew, and the report of its end then ends the mode: the
identity key can be read for another minute while the mode is inactive. -/
theorem reopened_window_outlives_mode :
    ∃ run, Run.follow performOwn (powerOn {} 0 (Peripherals.create {} 0)).value
        [.outside fun parts ↦
            { parts with
              store := ((KeyRing.addKey (List.replicate 16 42)).run parts.store).state },
          .post (.provisioningChanged true), .pass 0 none, .post (.requested .recovery),
          .pass 0 none, .post (.requested .recovery), .pass 60000000 none] = .ok run ∧
      run.state.windows.closing .recovery = some 120000000 ∧
      run.state.tag.timers.now = 60000000 ∧
      run.state.tag.ledger.recovery = false ∧ run.state.tag.ledger.provisioned = true :=
  ⟨_, rfl, by decide +kernel, by decide +kernel, by decide +kernel, by decide +kernel⟩

end Controller

end TagControl
