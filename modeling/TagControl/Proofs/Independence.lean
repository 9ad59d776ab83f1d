import TagControl.Bench
import TagControl.Proofs.Directions
import TagControl.Proofs.Windows
/-!
The timed modes do not interfere. What a mode has to do with the rest of the tag is little: the
clock, whether entering it is refused, and its own window (`View`). What happens to a tag is told as
a plan: the events and the moves of the clock in order, each with the faults that the directions
meet meanwhile. A run that plays a plan changes the view of a mode as `View.after` says, whatever
the device is otherwise, and `concerns` singles out the inputs that matter to it. So a plan and what
is left of it without the other inputs end with one window, even on two devices.
-/

set_option autoImplicit false

namespace TagControl.Engine

variable {σ : Type}

/-! ### Plans -/

/-- What happens to a tag, besides what happens to its device. -/
inductive Input where
  | event (event : Event)
  | advance (now : Instant)

def Input.move : Input → Move σ
  | .event handled => .event handled
  | .advance now => .advance now

/-- The directions that fail, each with its reason. -/
structure Faults where
  advertise : Option DeviceError := none
  holdsKey : Option DeviceError := none
  openWindow : Option DeviceError := none
  factoryReset : Option DeviceError := none

/-- Whether a call fails exactly as the faults have it. -/
def Faults.Govern (faults : Faults) : Call → Prop
  | .advertise _ answer => answer = Bench.answer faults.advertise ()
  | .holdsKey answer => ∃ stored, answer = Bench.answer faults.holdsKey stored
  | .openWindow _ answer => answer = (Bench.answer faults.openWindow ()).mapError .failed
  | .factoryReset answer => answer = Bench.answer faults.factoryReset ()
  | _ => True

theorem Faults.Govern.isSome_advertise {faults : Faults} {mode : AdvertisingMode}
    {answer : Except DeviceError Unit} (hgovern : faults.Govern (.advertise mode answer)) :
    faults.advertise.isSome = !answer.isOk := by
  obtain rfl : answer = _ := hgovern
  cases faults.advertise <;> rfl

theorem Faults.Govern.isSome_openWindow {faults : Faults} {mode : ReadMode}
    {answer : Except (Stop DeviceError) Unit} (hgovern : faults.Govern (.openWindow mode answer)) :
    faults.openWindow.isSome = !answer.isOk := by
  obtain rfl : answer = _ := hgovern
  cases faults.openWindow <;> rfl

structure Occasion where
  input : Input
  faults : Faults := {}

/-- The steps take the inputs of a plan in order, and the calls made at each fail as it has it. In
between, the device may change by itself. -/
inductive Plays : List Occasion → List (Step (Tag σ) (Move σ)) → Prop
  | start : Plays [] []
  | input {plan : List Occasion} {steps : List (Step (Tag σ) (Move σ))} {occasion : Occasion}
      {step : Step (Tag σ) (Move σ)} (hplays : Plays plan steps)
      (hmove : step.move = occasion.input.move)
      (hgovern : ∀ call ∈ Trace.calls step.trace, occasion.faults.Govern call) :
    Plays (plan ++ [occasion]) (steps ++ [step])
  | outside {plan : List Occasion} {steps : List (Step (Tag σ) (Move σ))}
      {step : Step (Tag σ) (Move σ)} {change : σ → σ} (hplays : Plays plan steps)
      (hmove : step.move = .outside change) :
    Plays plan (steps ++ [step])

theorem plays_append_singleton {plan : List Occasion} {steps : List (Step (Tag σ) (Move σ))}
    {step : Step (Tag σ) (Move σ)} (hplays : Plays plan (steps ++ [step])) :
    (∃ shorter occasion, plan = shorter ++ [occasion] ∧ Plays shorter steps ∧
      step.move = occasion.input.move ∧
      ∀ call ∈ Trace.calls step.trace, occasion.faults.Govern call) ∨
    (∃ change, step.move = .outside change ∧ Plays plan steps) := by
  generalize hsteps : steps ++ [step] = all at hplays
  cases hplays with
  | start => simp at hsteps
  | input hplays hmove hgovern =>
    obtain ⟨rfl, hlast⟩ := List.append_inj' hsteps rfl
    cases hlast
    exact .inl ⟨_, _, rfl, hplays, hmove, hgovern⟩
  | outside hplays hmove =>
    obtain ⟨rfl, hlast⟩ := List.append_inj' hsteps rfl
    cases hlast
    exact .inr ⟨_, hmove, hplays⟩

/-! ### What a mode sees -/

/-- What the life of a mode depends on: the clock, whether entering the mode is refused, and its
window. -/
structure View where
  now : Instant
  refused : Bool
  window : Bool × Option Instant

def view (mode : Mode) (memory : Memory) : View where
  now := memory.timers.now
  refused := TimedMode.isRefused memory.ledger mode
  window := memory.window mode

/-- Whether entering a mode fails. -/
def Faults.blocks (faults : Faults) : Mode → Bool
  | .dfu => faults.advertise.isSome
  | _ => faults.openWindow.isSome

def View.opened (config : Config) (mode : Mode) (view : View) : View :=
  { view with window := (true, some (view.now + mode.window config)) }

/-- The view of a mode after an input, whatever it was like besides. -/
def View.after (config : Config) (mode : Mode) (view : View) (occasion : Occasion) : View :=
  match occasion.input with
  | .advance now =>
    let clock := max view.now now
    { view with
      now := clock
      window := (view.window.1 && view.window.2.all (clock < ·), view.window.2.filter (clock < ·)) }
  | .event (.provisioningChanged provisioned) =>
    if mode.needsProvisioning then { view with refused := !provisioned } else view
  | .event (.readModeExited exited) =>
    if Mode.ofReadMode exited = mode then { view with window := (false, none) } else view
  | .event (.commandReceived command) =>
    if mode = .dfu && command.isUpdate && view.window.1 then view.opened config mode else view
  | .event (.requested request) =>
    if request.mode = mode && !view.refused && !occasion.faults.blocks mode then
      view.opened config mode
    else view
  | .event (.timerExpired timer) =>
    { view with window := (view.window.1 && timer ≠ mode.timer, view.window.2) }
  | .event _ => view

/-- Whether an input matters to a mode. -/
def concerns (mode : Mode) : Input → Bool
  | .event (.provisioningChanged _) => mode.needsProvisioning
  | .event .accountKeyWritten => false
  | .event (.readModeExited exited) => Mode.ofReadMode exited = mode
  | .event .clockSynced => false
  | .event (.commandReceived _) => mode = .dfu
  | .event (.requested request) => request.mode = mode
  | .event (.timerExpired _) => true
  | .advance _ => true

theorem View.after_of_not_concerns {config : Config} {mode : Mode} {occasion : Occasion}
    (hother : concerns mode occasion.input = false) (view : View) :
    view.after config mode occasion = view := by
  obtain ⟨input, faults⟩ := occasion
  cases input with
  | advance now => cases hother
  | event event =>
    cases event with
    | timerExpired timer => cases hother
    | accountKeyWritten => rfl
    | clockSynced => rfl
    | _ => simp_all [concerns, View.after]

/-- The inputs that do not concern a mode can be left out. -/
theorem foldl_after_filter (config : Config) (mode : Mode) (plan : List Occasion) (view : View) :
    (plan.filter (concerns mode ·.input)).foldl (View.after config mode) view =
      plan.foldl (View.after config mode) view := by
  rw [List.foldl_filter]
  congr 1
  funext view occasion
  split
  · rfl
  · next hother => exact (View.after_of_not_concerns (by simpa using hother) view).symm

/-! ### One step -/

section Steps

variable {config : Config} {before after : Memory} {calls : List Call} {faults : Faults}

theorem blocks_of_openingFailed {mode : Mode} {provisioned : Bool} {reason : Stop HandlingError}
    (hfailed : TimedMode.OpeningFailed provisioned mode calls reason)
    (hgovern : ∀ call ∈ calls, faults.Govern call) : faults.blocks mode = true := by
  cases hfailed with
  | window mode reason => cases mode <;> exact (hgovern _ List.mem_cons_self).isSome_openWindow
  | windowTooLate mode overflow =>
    cases mode <;> exact (hgovern _ List.mem_cons_self).isSome_openWindow
  | transport reason => exact (hgovern _ List.mem_cons_self).isSome_advertise

theorem not_blocks_of_opening {mode : Mode} {provisioned : Bool}
    (hgovern : ∀ call ∈ TimedMode.opening provisioned mode, faults.Govern call) :
    faults.blocks mode = false := by
  cases mode with
  | recovery => exact (hgovern _ List.mem_cons_self).isSome_openWindow
  | identification => exact (hgovern _ List.mem_cons_self).isSome_openWindow
  | dfu => exact (hgovern _ List.mem_cons_self).isSome_advertise

/-- A mode that is asked for opens unless entering it is refused or fails. -/
theorem opens_requested {mode : Mode} {request : Request} {outcome : Except HandlingError Unit}
    (hentered :
      TimedMode.Entered config request.mode before calls (outcome.mapError .failed) after)
    (hgovern : ∀ call ∈ calls, faults.Govern call) :
    Handling.opens mode ⟨before, .requested request, outcome⟩ =
      (request.mode = mode && !TimedMode.isRefused before.ledger mode && !faults.blocks mode) := by
  by_cases hmode : request.mode = mode
  · subst hmode
    generalize hresult : outcome.mapError Stop.failed = result at hentered
    cases hentered with
    | refused hrefused => cases outcome <;> simp [Handling.opens, hrefused]
    | tooLate hallowed hlate => cases outcome <;> cases hresult
    | notOpened hallowed hfailed =>
      cases outcome with
      | ok _ => cases hresult
      | error reason => simp [Handling.opens, blocks_of_openingFailed hfailed hgovern]
    | entered hallowed hroom =>
      cases outcome with
      | error reason => cases hresult
      | ok _ =>
        have hfree : faults.blocks request.mode = false :=
          not_blocks_of_opening fun call hcall ↦ hgovern call (List.mem_append_left _ hcall)
        simp [Handling.opens, hallowed, hfree]
  · cases outcome <;> simp [Handling.opens, hmode]

/-- An event changes the view of a mode by what it is and by what fails in its handling. -/
theorem Effect.view {event : Event} {outcome : Except HandlingError Unit}
    (heffect : Effect config before event calls (outcome.mapError .failed) after)
    (hgovern : ∀ call ∈ calls, faults.Govern call) (mode : Mode) :
    view mode after = (view mode before).after config mode ⟨.event event, faults⟩ := by
  have hrefused : TimedMode.isRefused after.ledger mode =
      (mode.needsProvisioning && !(report? event).getD before.ledger.provisioned) := by
    rw [TimedMode.isRefused, heffect.provisioned]
  unfold Engine.view
  rw [heffect.now, hrefused, heffect.window mode]
  cases event with
  | provisioningChanged provisioned =>
    cases hneeds : mode.needsProvisioning <;>
      simp [View.after, hneeds, Handling.window, Handling.opens, TimedMode.isRefused, report?]
  | accountKeyWritten => rfl
  | clockSynced => rfl
  | readModeExited exited =>
    by_cases hmode : Mode.ofReadMode exited = mode <;>
      simp [View.after, hmode, Handling.window, TimedMode.isRefused, report?]
  | commandReceived command =>
    by_cases hmode : mode = .dfu
    · subst hmode
      cases hopens : command.isUpdate && before.ledger.dfu <;>
        simp [View.after, View.opened, Handling.window, Handling.opens, TimedMode.isRefused,
          report?, Memory.window, Ledger.isActive, hopens]
    · simp [View.after, Handling.window, Handling.opens, hmode, TimedMode.isRefused, report?]
  | requested request =>
    change (⟨_, _, _⟩ : View) = if (request.mode = mode &&
      !TimedMode.isRefused before.ledger mode && !faults.blocks mode) = true then _ else _
    rw [← opens_requested heffect hgovern]
    simp only [Handling.window]
    split <;> rfl
  | timerExpired timer => rfl

/-- The clock changes the view of a mode alike whatever fails in the handling of the expiries. -/
theorem Deliveries.view {now : Instant} {handlings : List Handling}
    (hdeliveries : Deliveries config { before with timers := (before.timers.advance now).2 }
      ((before.timers.advance now).1.map .timerExpired) handlings calls after) (mode : Mode) :
    view mode after = (view mode before).after config mode ⟨.advance now, faults⟩ := by
  have hreports : ((before.timers.advance now).1.map Event.timerExpired).filterMap report? = [] := by
    simp [List.filterMap_map, report?]
  have hdue : (mode.timer ∉ (before.timers.advance now).1) ↔
      (before.timers.deadline mode.timer).all (max before.timers.now now < ·) = true := by
    rw [Timers.mem_advance]
    cases before.timers.deadline mode.timer <;> simp
  have hrefused : TimedMode.isRefused after.ledger mode =
      TimedMode.isRefused before.ledger mode := by
    rw [TimedMode.isRefused, hdeliveries.provisioned, hreports]
    rfl
  unfold Engine.view
  rw [hdeliveries.now, hrefused, hdeliveries.window_expired mode, Timers.now_advance,
    Timers.deadline_advance]
  simp [View.after, Memory.window, hdue]

end Steps

/-! ### Whole runs -/

theorem Moved.view {config : Config} {before after : Memory} {occasion : Occasion}
    {handlings : List Handling} {calls : List Call}
    (hmoved : Moved config before (occasion.input.move : Move σ) handlings calls after)
    (hgovern : ∀ call ∈ calls, occasion.faults.Govern call) (mode : Mode) :
    view mode after = (view mode before).after config mode occasion := by
  obtain ⟨input, faults⟩ := occasion
  cases input with
  | event event =>
    obtain ⟨outcome, heffect⟩ := Moved.effect hmoved
    exact heffect.view hgovern mode
  | advance now =>
    have hadvanced : Moved config before (.advance now : Move σ) handlings calls after := hmoved
    cases hadvanced with
    | advance hdeliveries => exact hdeliveries.view mode

/-- A run that plays a plan leaves a mode with the view that the plan gives it. -/
theorem view_of_plays [Device σ] {config : Config} {start : Instant} {device : σ}
    {moves : List (Move σ)} {run : Run (Tag σ) (Move σ)} {plan : List Occasion}
    (hfollow : Run.follow (perform config) (.powerOn start device) moves = .ok run)
    (hplays : Plays plan run.steps) (mode : Mode) :
    view mode run.state.toMemory =
      plan.foldl (View.after config mode) (view mode { timers := { now := start } }) := by
  refine Run.follow_induction hfollow (motive := fun run ↦ ∀ plan, Plays plan run.steps →
    view mode run.state.toMemory =
      plan.foldl (View.after config mode) (view mode { timers := { now := start } })) ?_ ?_
    plan hplays
  · intro plan hplays
    generalize hsteps : ({ state := Tag.powerOn start device } : Run (Tag σ) (Move σ)).steps =
      steps at hplays
    cases hplays with
    | start => rfl
    | input => simp at hsteps
    | outside => simp at hsteps
  · intro earlier move trace after hearlier _ hrun plan hplays
    have hmoved := perform_eq_ok hrun
    rw [Run.steps_append] at hplays
    rcases plays_append_singleton hplays with
      ⟨shorter, occasion, rfl, hshorter, hmove, hgovern⟩ | ⟨change, hmove, hshorter⟩
    · obtain rfl : move = occasion.input.move := hmove
      rw [List.foldl_append, List.foldl_cons, List.foldl_nil, ← hearlier shorter hshorter]
      exact hmoved.view hgovern mode
    · obtain rfl : move = .outside change := hmove
      have hkept : after.toMemory = earlier.state.toMemory := by
        generalize after.toMemory = final at hmoved
        generalize Trace.handlings trace = handlings at hmoved
        generalize Trace.calls trace = calls at hmoved
        cases hmoved
        rfl
      rw [Run.state_append, hkept]
      exact hearlier plan hshorter

/-! ### A device that plays any plan -/

def faultsOf (bench : Bench) : Faults where
  advertise := bench.advertiseFault
  holdsKey := bench.keyFault
  openWindow := bench.windowFault
  factoryReset := bench.resetFault

/-- What a device on the bench is told fails if the fault for it is set, and no fault changes. -/
theorem faultsOf_obeys {bench after : Bench} {call : Call}
    (hobeys : Device.Obeys bench call after) :
    (faultsOf bench).Govern call ∧ faultsOf after = faultsOf bench := by
  cases hobeys with
  | advertise mode => exact ⟨rfl, rfl⟩
  | suspendRotation suspend => exact ⟨trivial, rfl⟩
  | offerUpdates offer => exact ⟨trivial, rfl⟩
  | holdsKey => exact ⟨⟨bench.key, rfl⟩, rfl⟩
  | openWindow mode => exact ⟨rfl, rfl⟩
  | indicate state active => exact ⟨trivial, rfl⟩
  | factoryReset =>
    obtain ⟨key, advertiseFault, keyFault, windowFault, resetFault⟩ := bench
    cases resetFault <;> exact ⟨rfl, rfl⟩

theorem faultsOf_obeysAll {bench after : Bench} {calls : List Call}
    (hobeys : Device.ObeysAll bench calls after) :
    ∀ call ∈ calls, (faultsOf bench).Govern call := by
  induction hobeys with
  | nil => simp
  | cons hcall hrest ih =>
    obtain ⟨hgovern, hkept⟩ := faultsOf_obeys hcall
    rw [hkept] at ih
    exact List.forall_mem_cons.mpr ⟨hgovern, ih⟩

theorem directs_perform [Device σ] {config : Config} {input : Input} :
    Directs Tag.device (perform config input.move : Course σ Unit) := by
  have hexpired : ∀ expired, Directs Tag.device (deliverExpired config expired : Course σ _) := by
    intro expired
    induction expired with
    | nil => exact directs_pure
    | cons timer rest ih =>
      exact directs_bind directs_deliver fun _ ↦ directs_bind ih fun _ ↦ directs_pure
  cases input with
  | event event => exact directs_bind directs_deliver fun _ ↦ directs_pure
  | advance now =>
    exact directs_bind (directs_bind (directs_idle (fun _ ↦ rfl) fun _ ↦ rfl) hexpired) fun _ ↦
      directs_pure

theorem govern_of_perform {config : Config} {input : Input} {tag after : Tag Bench}
    {trace : List Entry}
    (hrun : (perform config input.move).run tag = ⟨.ok (), after, trace⟩) :
    ∀ call ∈ Trace.calls trace, (faultsOf tag.device).Govern call := by
  have hdirects : Directs Tag.device (perform config input.move : Course Bench Unit) :=
    directs_perform
  have hobeys := hdirects tag
  rw [hrun] at hobeys
  exact faultsOf_obeysAll hobeys

/-- Sets the faults that an occasion has. -/
def Occasion.prepare (occasion : Occasion) (bench : Bench) : Bench :=
  { bench with
    advertiseFault := occasion.faults.advertise
    keyFault := occasion.faults.holdsKey
    windowFault := occasion.faults.openWindow
    resetFault := occasion.faults.factoryReset }

/-- The moves by which a device on the bench plays a plan. -/
def benchMoves (plan : List Occasion) : List (Move Bench) :=
  plan.flatMap fun occasion ↦ [.outside occasion.prepare, occasion.input.move]

/-- A device on the bench plays any plan, unless the run is cut short. -/
theorem plays_benchMoves {config : Config} {start : Instant} {bench : Bench} {plan : List Occasion}
    {run : Run (Tag Bench) (Move Bench)}
    (hfollow : Run.follow (perform config) (.powerOn start bench) (benchMoves plan) = .ok run) :
    Plays plan run.steps := by
  induction plan using List.reverseRecOn generalizing run with
  | nil =>
    cases hfollow
    exact .start
  | append_singleton plan occasion ih =>
    have hmoves : benchMoves (plan ++ [occasion]) =
        (benchMoves plan ++ [.outside occasion.prepare]) ++ [occasion.input.move] := by
      simp [benchMoves]
    rw [hmoves] at hfollow
    obtain ⟨prepared, hprepared, hextend⟩ := Run.follow_append_singleton.mp hfollow
    obtain ⟨earlier, hearlier, houtside⟩ := Run.follow_append_singleton.mp hprepared
    obtain ⟨_, _, hset, rfl⟩ := Run.extend_eq_ok.mp houtside
    obtain ⟨trace, after, hrun, rfl⟩ := Run.extend_eq_ok.mp hextend
    cases hset
    have hgovern : ∀ call ∈ Trace.calls trace, occasion.faults.Govern call :=
      govern_of_perform hrun
    exact .input (.outside (ih hearlier) rfl) rfl hgovern

/-! ### Two runs -/

/-- Leave out of a run all that does not concern a mode, and let what is left fail in the same ways,
even on another device: then the mode is left with the same window, unless the shorter run is cut
short because a deadline lies past the last instant. -/
theorem modes_do_not_interfere {ρ : Type} [Device σ] [Device ρ] (config : Config) (start : Instant)
    (device : σ) (moves : List (Move σ)) (run : Run (Tag σ) (Move σ))
    (hfollow : Run.follow (perform config) (.powerOn start device) moves = .ok run)
    (plan : List Occasion) (hplays : Plays plan run.steps) (mode : Mode) (other : ρ)
    (fewer : List (Move ρ)) :
    (∀ shorter, Run.follow (perform config) (.powerOn start other) fewer = .ok shorter →
      Plays (plan.filter (concerns mode ·.input)) shorter.steps →
      shorter.state.window mode = run.state.window mode) ∧
    ∀ overflow, Run.follow (perform config) (.powerOn start other) fewer = .error overflow →
      CutShort config (.powerOn start other) fewer := by
  refine ⟨fun shorter hshorter hfewer ↦ ?_, fun overflow ↦ cutShort_of_follow_eq_error⟩
  have hviews : view mode shorter.state.toMemory = view mode run.state.toMemory := by
    rw [view_of_plays hshorter hfewer, foldl_after_filter, view_of_plays hfollow hplays]
  exact congrArg View.window hviews

/-- Update mode is entered, refreshed in vain and extended by a command, while the tag is reported
provisioned, recovery mode comes and goes, a key is written and a reset fails. -/
def busyPlan : List Occasion :=
  [⟨.event (.provisioningChanged true), {}⟩, ⟨.event (.requested .dfu), {}⟩,
    ⟨.event (.requested .recovery), {}⟩, ⟨.advance 10000000, { factoryReset := some .io }⟩,
    ⟨.event (.requested .dfu), { advertise := some .unavailable }⟩,
    ⟨.event (.readModeExited .recovery), {}⟩, ⟨.event .accountKeyWritten, { holdsKey := some .io }⟩,
    ⟨.event (.commandReceived ⟨.write, 1, 0, 0⟩), {}⟩, ⟨.advance 60000000, {}⟩]

/-- The update window ends alike without the rest of the plan, and on a device without a key. -/
theorem update_window_of_busyPlan :
    ∃ run shorter, Run.follow (perform {}) (.powerOn 0 ({ key := true } : Bench))
        (benchMoves busyPlan) = .ok run ∧
      Plays busyPlan run.steps ∧
      Run.follow (perform {}) (.powerOn 0 ({} : Bench))
        (benchMoves (busyPlan.filter (concerns .dfu ·.input))) = .ok shorter ∧
      Plays (busyPlan.filter (concerns .dfu ·.input)) shorter.steps ∧
      run.state.window .dfu = (true, some 70000000) ∧
      shorter.state.window .dfu = run.state.window .dfu := by
  obtain ⟨run, hrun, hwindow⟩ : ∃ run, Run.follow (perform {})
        (.powerOn 0 ({ key := true } : Bench)) (benchMoves busyPlan) = .ok run ∧
      run.state.window .dfu = (true, some 70000000) := ⟨_, rfl, by decide +kernel⟩
  obtain ⟨shorter, hshorter⟩ : ∃ shorter, Run.follow (perform {}) (.powerOn 0 ({} : Bench))
      (benchMoves (busyPlan.filter (concerns .dfu ·.input))) = .ok shorter := ⟨_, rfl⟩
  have hplays := plays_benchMoves hrun
  have hfewer := plays_benchMoves hshorter
  exact ⟨run, shorter, hrun, hplays, hshorter, hfewer, hwindow,
    (modes_do_not_interfere {} 0 _ _ run hrun _ hplays .dfu _ _).1 shorter hshorter hfewer⟩

end TagControl.Engine
