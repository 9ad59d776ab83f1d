import TagControl.Engine
import TagControl.Proofs.Provisioning
import TagControl.Proofs.Run
import TagControl.Proofs.TimedMode
/-!
What the handling of an event does to the memory, for every event (`Effect`), and what a sequence
of events handled one after the other does (`Deliveries`). The handlers are not looked into again:
every law of the engine is a law of `Effect`, carried along `Deliveries`.
-/

set_option autoImplicit false

namespace TagControl.Engine

open Handler

variable {σ : Type}

/-- The expiry of the reset timer. The address rotates again however the reset ends. -/
inductive ResetExpired (before : Memory) :
    List Call → Except (Stop HandlingError) Unit → Memory → Prop
  | expired {calls : List Call} {answer : Except HandlingError (Option ResetCause)}
      {after : Memory} (hexpired : Reset.Expired before calls answer after) :
    ResetExpired before (calls ++ Provisioning.resumption before.ledger.pending)
      ((answer.map fun _ ↦ ()).mapError .failed) after

/-- How the handling of an event can end: the calls made on the way, the result, and the memory
left behind. -/
def Effect (config : Config) (before : Memory) :
    Event → List Call → Except (Stop HandlingError) Unit → Memory → Prop
  | .provisioningChanged provisioned => Provisioning.Reported config provisioned before
  | .accountKeyWritten => Provisioning.KeyWritten config before
  | .readModeExited mode =>
    TimedMode.Left (.ofReadMode mode)
      { before with timers := before.timers.withDeadline (Mode.ofReadMode mode).timer none }
  | .clockSynced => Provisioning.ClockSynced before
  | .commandReceived command => TimedMode.Extended config command before
  | .requested request => TimedMode.Entered config request.mode before
  | .timerExpired timer =>
    match Mode.ofTimer timer with
    | some mode => TimedMode.Left mode before
    | none => ResetExpired before

/-- The provisioning state that an event reports. -/
def report? : Event → Option Bool
  | .provisioningChanged provisioned => some provisioned
  | _ => none

/-- No event moves the clock. -/
theorem Effect.now {config : Config} {before after : Memory} {event : Event} {calls : List Call}
    {result : Except (Stop HandlingError) Unit}
    (heffect : Effect config before event calls result after) :
    after.timers.now = before.timers.now := by
  cases event with
  | provisioningChanged provisioned => cases heffect <;> simp [Reset.scheduled]
  | accountKeyWritten => cases heffect <;> simp [Reset.scheduled]
  | readModeExited mode => cases heffect <;> rfl
  | clockSynced => cases heffect <;> rfl
  | commandReceived command => cases heffect <;> rfl
  | requested request => cases heffect <;> rfl
  | timerExpired timer =>
    cases hmode : Mode.ofTimer timer with
    | some mode =>
      simp only [Effect, hmode] at heffect
      cases heffect <;> rfl
    | none =>
      simp only [Effect, hmode] at heffect
      obtain ⟨hexpired⟩ := heffect
      cases hexpired <;> rfl

/-- The ledger's provisioning state is that of the last report, whatever fails after it is noted. -/
theorem Effect.provisioned {config : Config} {before after : Memory} {event : Event}
    {calls : List Call} {result : Except (Stop HandlingError) Unit}
    (heffect : Effect config before event calls result after) :
    after.ledger.provisioned = (report? event).getD before.ledger.provisioned := by
  cases event with
  | provisioningChanged provisioned => cases heffect <;> rfl
  | accountKeyWritten => cases heffect <;> rfl
  | readModeExited mode => cases heffect <;> simp [report?]
  | clockSynced => cases heffect <;> rfl
  | commandReceived command => cases heffect <;> rfl
  | requested request => cases heffect <;> simp [report?]
  | timerExpired timer =>
    cases hmode : Mode.ofTimer timer with
    | some mode =>
      simp only [Effect, hmode] at heffect
      cases heffect <;> simp [report?]
    | none =>
      simp only [Effect, hmode] at heffect
      obtain ⟨hexpired⟩ := heffect
      cases hexpired <;> rfl

section Handlers

variable [Device σ] {tag : Tag σ}

theorem ends_resetExpired :
    Ends resetExpired tag fun calls result after ↦
      ResetExpired tag.toMemory calls result after.toMemory := by
  unfold resetExpired
  rw [ends_bind, ends_ledger]
  simp only [ends_bind]
  refine Reset.ends_expire.mono ?_
  rintro calls _ after ⟨answer, rfl, hexpired⟩
  refine Provisioning.ends_resumeRotationAfter fun device ↦ ?_
  cases answer with
  | ok cause => simpa [Except.map] using ResetExpired.expired hexpired
  | error reason => simpa [Except.map] using ResetExpired.expired hexpired

theorem ends_handle {config : Config} {event : Event} :
    Ends (handle config event) tag fun calls result after ↦
      Effect config tag.toMemory event calls result after.toMemory := by
  cases event with
  | provisioningChanged provisioned => exact Provisioning.ends_stateReported
  | accountKeyWritten => exact Provisioning.ends_keyWritten
  | readModeExited mode => exact TimedMode.ends_readModeExited
  | clockSynced => exact Provisioning.ends_clockSynced
  | commandReceived command => exact TimedMode.ends_extendUpdate
  | requested request => exact TimedMode.ends_request
  | timerExpired timer =>
    cases timer with
    | factoryReset => exact ends_resetExpired
    | dfu => exact TimedMode.ends_timedOut
    | recovery => exact TimedMode.ends_timedOut
    | identification => exact TimedMode.ends_timedOut

end Handlers

/-! ### Events handled one after the other -/

/-- Events handled in order from one memory to another, each to its end: their handlings and the
calls made. -/
inductive Deliveries (config : Config) :
    Memory → List Event → List Handling → List Call → Memory → Prop
  | nil {memory : Memory} : Deliveries config memory [] [] [] memory
  | cons {before middle after : Memory} {event : Event} {events : List Event}
      {outcome : Except HandlingError Unit} {handlings : List Handling} {calls more : List Call}
      (heffect : Effect config before event calls (outcome.mapError .failed) middle)
      (hrest : Deliveries config middle events handlings more after) :
    Deliveries config before (event :: events) (⟨before, event, outcome⟩ :: handlings)
      (calls ++ more) after

/-- What each of the events preserves, all of them together preserve. -/
theorem Deliveries.preserves {config : Config} {motive : Memory → Prop} {before after : Memory}
    {events : List Event} {handlings : List Handling} {calls : List Call}
    (hdeliveries : Deliveries config before events handlings calls after)
    (heach : ∀ event ∈ events, ∀ (found left : Memory) (made : List Call)
      (outcome : Except HandlingError Unit),
      Effect config found event made (outcome.mapError .failed) left → motive found → motive left)
    (hbefore : motive before) : motive after := by
  induction hdeliveries with
  | nil => exact hbefore
  | cons heffect hrest ih =>
    have hmiddle := heach _ List.mem_cons_self _ _ _ _ heffect hbefore
    exact ih (fun event hevent ↦ heach event (List.mem_cons_of_mem _ hevent)) hmiddle

theorem Deliveries.now {config : Config} {before after : Memory} {events : List Event}
    {handlings : List Handling} {calls : List Call}
    (hdeliveries : Deliveries config before events handlings calls after) :
    after.timers.now = before.timers.now := by
  refine hdeliveries.preserves (motive := fun memory ↦ memory.timers.now = before.timers.now) ?_ rfl
  intro event _ found left made outcome heffect hfound
  exact heffect.now.trans hfound

theorem Deliveries.map_event {config : Config} {before after : Memory} {events : List Event}
    {handlings : List Handling} {calls : List Call}
    (hdeliveries : Deliveries config before events handlings calls after) :
    handlings.map (·.event) = events := by
  induction hdeliveries with
  | nil => rfl
  | cons heffect hrest ih => rw [List.map_cons, ih]

theorem Deliveries.provisioned {config : Config} {before after : Memory} {events : List Event}
    {handlings : List Handling} {calls : List Call}
    (hdeliveries : Deliveries config before events handlings calls after) :
    after.ledger.provisioned =
      (events.filterMap report?).getLast?.getD before.ledger.provisioned := by
  induction hdeliveries with
  | nil => rfl
  | @cons before middle after event events _ _ _ _ heffect hrest ih =>
    rw [ih, heffect.provisioned]
    cases hreport : report? event with
    | none => simp [hreport]
    | some provisioned => simp [hreport, List.getLast?_cons]

section Delivery

variable [Device σ] {config : Config}

theorem run_deliver (event : Event) (tag : Tag σ) :
    (deliver config event).run tag =
      let out := (handle config event).run tag
      match Stop.settle out.result with
      | .ok outcome =>
        ⟨.ok outcome, out.state, out.trace ++ [.handled tag.toMemory event outcome]⟩
      | .error overflow => ⟨.error overflow, out.state, out.trace⟩ := by
  rcases hhandle : (handle config event).run tag with ⟨result, state, body⟩
  cases hsettle : Stop.settle result with
  | ok outcome => simp [deliver, hhandle, hsettle, Except.map]
  | error overflow => simp [deliver, hhandle, hsettle]

theorem deliver_eq_ok {event : Event} {tag after : Tag σ} {outcome : Except HandlingError Unit}
    {trace : List Entry}
    (hrun : (deliver config event).run tag = ⟨.ok outcome, after, trace⟩) :
    Effect config tag.toMemory event (Trace.calls trace) (outcome.mapError .failed)
        after.toMemory ∧
      Trace.handlings trace = [⟨tag.toMemory, event, outcome⟩] := by
  obtain ⟨hquiet, heffect⟩ := @ends_handle σ _ tag config event
  rw [run_deliver] at hrun
  rcases hhandle : (handle config event).run tag with ⟨result, state, body⟩
  rw [hhandle] at hrun hquiet heffect
  cases hsettle : Stop.settle result with
  | error overflow =>
    simp only [hsettle] at hrun
    cases hrun
  | ok settled =>
    simp only [hsettle] at hrun
    cases hrun
    obtain rfl := Stop.settle_eq_ok.mp hsettle
    constructor
    · simpa using heffect
    · simpa using hquiet

theorem deliver_eq_error {event : Event} {tag after : Tag σ} {overflow : ClockOverflow}
    {trace : List Entry}
    (hrun : (deliver config event).run tag = ⟨.error overflow, after, trace⟩) :
    Effect config tag.toMemory event (Trace.calls trace) (.error (.clockOverflow overflow))
      after.toMemory := by
  obtain ⟨-, heffect⟩ := @ends_handle σ _ tag config event
  rw [run_deliver] at hrun
  rcases hhandle : (handle config event).run tag with ⟨result, state, body⟩
  rw [hhandle] at hrun heffect
  cases hsettle : Stop.settle result with
  | ok settled =>
    simp only [hsettle] at hrun
    cases hrun
  | error early =>
    simp only [hsettle] at hrun
    cases hrun
    obtain rfl := Stop.settle_eq_error.mp hsettle
    exact heffect

/-! ### Expired timers -/

/-- The handling of an expired timer never runs out of clock: it arms nothing. -/
theorem result_timerExpired {before after : Memory} {timer : Timer} {calls : List Call}
    {result : Except (Stop HandlingError) Unit}
    (heffect : Effect config before (.timerExpired timer) calls result after) :
    ∃ outcome : Except HandlingError Unit, result = outcome.mapError .failed := by
  unfold Effect at heffect
  cases hmode : Mode.ofTimer timer with
  | none =>
    simp only [hmode] at heffect
    cases heffect with
    | expired => exact ⟨_, rfl⟩
  | some mode =>
    simp only [hmode] at heffect
    cases heffect with
    | inactive => exact ⟨.ok (), rfl⟩
    | left => exact ⟨.ok (), rfl⟩

theorem deliverExpired_total (expired : List Timer) (tag : Tag σ) :
    ∃ outcomes after trace, (deliverExpired config expired).run tag = ⟨.ok outcomes, after, trace⟩ ∧
      Deliveries config tag.toMemory (expired.map .timerExpired) (Trace.handlings trace)
        (Trace.calls trace) after.toMemory := by
  induction expired generalizing tag with
  | nil => exact ⟨[], tag, [], rfl, .nil⟩
  | cons timer rest ih =>
    rcases hdeliver : (deliver config (.timerExpired timer)).run tag with
      ⟨overflow | outcome, middle, trace⟩
    · obtain ⟨outcome, houtcome⟩ := result_timerExpired (deliver_eq_error hdeliver)
      cases outcome <;> cases houtcome
    · obtain ⟨heffect, hhandlings⟩ := deliver_eq_ok hdeliver
      obtain ⟨outcomes, after, later, hrest, hdeliveries⟩ := ih middle
      refine ⟨(timer, outcome) :: outcomes, after, trace ++ later, ?_, ?_⟩
      · simp [deliverExpired, hdeliver, hrest, Outcome.map, Except.map]
      · rw [Trace.handlings_append, Trace.calls_append, hhandlings]
        exact .cons heffect hdeliveries

/-- Moving the timers to the present never runs out of clock. -/
theorem advance_total (now : Instant) (tag : Tag σ) :
    ∃ outcomes after trace, (advance config now).run tag = ⟨.ok outcomes, after, trace⟩ ∧
      Deliveries config { tag.toMemory with timers := (tag.timers.advance now).2 }
        ((tag.timers.advance now).1.map .timerExpired) (Trace.handlings trace)
        (Trace.calls trace) after.toMemory := by
  obtain ⟨outcomes, after, trace, hrun, hdeliveries⟩ := @deliverExpired_total σ _ config
    (tag.timers.advance now).1 { tag with timers := (tag.timers.advance now).2 }
  refine ⟨outcomes, after, trace, ?_, hdeliveries⟩
  simp [advance, expireTimers, hrun]

end Delivery

/-! ### Moves -/

/-- What can happen to a tag: an event is handled, the timers are moved to the present, or the
device changes by itself. -/
inductive Move (σ : Type) where
  | event (event : Event)
  | advance (now : Instant)
  | outside (change : σ → σ)

/-- What a move does to the memory: the handlings, the calls and the memory left behind. -/
inductive Moved (config : Config) (before : Memory) :
    Move σ → List Handling → List Call → Memory → Prop
  | event {event : Event} {outcome : Except HandlingError Unit} {calls : List Call}
      {after : Memory}
      (heffect : Effect config before event calls (outcome.mapError .failed) after) :
    Moved config before (.event event) [⟨before, event, outcome⟩] calls after
  | advance {now : Instant} {handlings : List Handling} {calls : List Call} {after : Memory}
      (hdeliveries : Deliveries config { before with timers := (before.timers.advance now).2 }
        ((before.timers.advance now).1.map .timerExpired) handlings calls after) :
    Moved config before (.advance now) handlings calls after
  | outside {change : σ → σ} : Moved config before (.outside change) [] [] before

theorem Moved.effect {config : Config} {before after : Memory} {event : Event}
    {handlings : List Handling} {calls : List Call}
    (hmoved : Moved config before (.event event : Move σ) handlings calls after) :
    ∃ outcome : Except HandlingError Unit,
      Effect config before event calls (outcome.mapError .failed) after := by
  cases hmoved with
  | event heffect => exact ⟨_, heffect⟩

section Perform

variable [Device σ]

def perform (config : Config) : Move σ → Course σ Unit
  | .event event => do
    let _ ← deliver config event
  | .advance now => do
    let _ ← advance config now
  | .outside change => modify fun tag ↦ { tag with device := change tag.device }

theorem perform_eq_ok {config : Config} {move : Move σ} {tag after : Tag σ} {trace : List Entry}
    (hrun : (perform config move).run tag = ⟨.ok (), after, trace⟩) :
    Moved config tag.toMemory move (Trace.handlings trace) (Trace.calls trace) after.toMemory := by
  cases move with
  | event event =>
    obtain ⟨outcome, middle, earlier, later, hdeliver, hend, rfl⟩ := Act.run_bind_eq_ok.mp hrun
    cases hend
    obtain ⟨heffect, hhandlings⟩ := deliver_eq_ok hdeliver
    rw [List.append_nil, hhandlings]
    exact .event heffect
  | advance now =>
    obtain ⟨outcomes, middle, earlier, later, hadvance, hend, rfl⟩ := Act.run_bind_eq_ok.mp hrun
    cases hend
    obtain ⟨_, _, _, htotal, hdeliveries⟩ := @advance_total σ _ config now tag
    rw [hadvance] at htotal
    cases htotal
    rw [List.append_nil]
    exact .advance hdeliveries
  | outside change =>
    cases hrun
    exact .outside

/-! ### The end of the clock -/

/-- The lengths for which timers are armed. -/
def waits (config : Config) : List Duration :=
  [config.recoveryWindow, config.identificationWindow, config.dfuWindow, config.provisioningLimit,
    config.mismatchDelay]

theorem window_mem_waits (config : Config) (mode : Mode) : mode.window config ∈ waits config := by
  cases mode <;> simp [waits, Mode.window]

/-- A deadline lies past the last instant: that of a read window, as the beacon said, or one that
is computed from the present. -/
def OutOfClock (config : Config) (memory : Memory) (calls : List Call) : Prop :=
  (∃ mode overflow, .openWindow mode (.error (.clockOverflow overflow)) ∈ calls) ∨
    ∃ wait ∈ waits config, Instant.limit ≤ memory.timers.now + wait

theorem Effect.outOfClock {config : Config} {before after : Memory} {event : Event}
    {calls : List Call} {overflow : ClockOverflow}
    (heffect : Effect config before event calls (.error (.clockOverflow overflow)) after) :
    OutOfClock config before calls := by
  cases event with
  | provisioningChanged provisioned =>
    cases heffect with
    | tooLate stopped hlate => exact .inr ⟨_, by simp [waits], hlate⟩
  | accountKeyWritten =>
    cases heffect with
    | tooLate hkey hlate => exact .inr ⟨_, by simp [waits], hlate⟩
  | readModeExited mode => cases heffect
  | clockSynced => cases heffect
  | commandReceived command =>
    cases heffect with
    | tooLate htaken hlate => exact .inr ⟨_, by simp [waits], hlate⟩
  | requested request =>
    cases heffect with
    | notOpened hallowed hfailed =>
      obtain ⟨mode, hmem⟩ := hfailed.openWindow_mem
      exact .inl ⟨mode, overflow, hmem⟩
    | tooLate hallowed hlate => exact .inr ⟨_, window_mem_waits config _, hlate⟩
  | timerExpired timer =>
    obtain ⟨outcome, houtcome⟩ := result_timerExpired heffect
    cases outcome <;> cases houtcome

/-- A run cannot go on with the moves it was given: at one of them a deadline lies past the last
instant. -/
def CutShort (config : Config) (start : Tag σ) (moves : List (Move σ)) : Prop :=
  ∃ earlier move later run, moves = earlier ++ move :: later ∧
    Run.follow (perform config) start earlier = .ok run ∧
    OutOfClock config run.state.toMemory
      (Trace.calls ((perform config move).run run.state).trace)

theorem cutShort_of_follow_eq_error {config : Config} {start : Tag σ} {moves : List (Move σ)}
    {overflow : ClockOverflow}
    (hfollow : Run.follow (perform config) start moves = .error overflow) :
    CutShort config start moves := by
  obtain ⟨earlier, move, later, run, hmoves, hrun, hresult⟩ := Run.follow_eq_error hfollow
  refine ⟨earlier, move, later, run, hmoves, hrun, ?_⟩
  cases move with
  | event event =>
    rcases hdeliver : (deliver config event).run run.state with ⟨early | outcome, after, trace⟩
    · have heffect := deliver_eq_error hdeliver
      simpa [perform, hdeliver, Outcome.map] using heffect.outOfClock
    · simp [perform, hdeliver, Outcome.map, Except.map] at hresult
  | advance now =>
    obtain ⟨outcomes, after, trace, htotal, -⟩ := @advance_total σ _ config now run.state
    simp [perform, htotal, Outcome.map, Except.map] at hresult
  | outside change => cases hresult

end Perform

end TagControl.Engine
