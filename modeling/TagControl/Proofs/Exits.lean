import Mathlib.Data.List.Perm.Basic
import Mathlib.Logic.Function.Conjugate
import TagControl.Proofs.Mirror
import TagControl.Proofs.PendingReset
/-!
The events that end something: a timer expires, or the beacon closes a read window. Each of them
ends a mode or runs the pending reset, if this has not been done before, and may disarm a timer.
Such steps touch different parts of the tag, so any two of them commute, and a step taken twice does
no more than one. What a list of these events leaves therefore depends on which of them occur in
it, and not on their order or on how often they come.
-/

set_option autoImplicit false

namespace TagControl

/-! ### Steps that commute and are done once -/

section Steps

variable {α β : Type}

/-- A step that is taken only where it is due. -/
def whenDue (due : α → Bool) (step : α → α) (state : α) : α :=
  if due state then step state else state

theorem whenDue_commute {due : α → Bool} {step other : α → α} (hstep : Function.Commute step other)
    (hdue : ∀ state, due (other state) = due state) :
    Function.Commute (whenDue due step) other := by
  intro state
  unfold whenDue
  rw [hdue]
  split
  · exact hstep state
  · rfl

theorem whenDue_commute_whenDue {due dueOther : α → Bool} {step other : α → α}
    (hsteps : Function.Commute step other) (hdue : ∀ state, due (other state) = due state)
    (hother : ∀ state, dueOther (step state) = dueOther state) :
    Function.Commute (whenDue due step) (whenDue dueOther other) := by
  refine whenDue_commute (whenDue_commute hsteps.symm hother).symm fun state ↦ ?_
  rw [whenDue]
  split
  · exact hdue state
  · rfl

theorem whenDue_whenDue {due : α → Bool} {step : α → α} (hdone : ∀ state, due (step state) = false)
    (state : α) : whenDue due step (whenDue due step state) = whenDue due step state := by
  unfold whenDue
  by_cases hdue : due state = true
  · simp [hdue, hdone]
  · simp [hdue]

variable {step : β → α → β} [RightCommutative step]

theorem foldl_absorb (hidem : ∀ state item, step (step state item) item = step state item)
    {items : List α} {item : α} (hmem : item ∈ items) (state : β) :
    items.foldl step (step state item) = items.foldl step state := by
  induction items generalizing state with
  | nil => cases hmem
  | cons first rest ih =>
    rw [List.foldl_cons, List.foldl_cons]
    rcases List.mem_cons.mp hmem with rfl | hrest
    · rw [hidem]
    · have hcomm : step (step state item) first = step (step state first) item :=
        RightCommutative.right_comm state item first
      rw [hcomm, ih hrest]

theorem foldl_absorb_all (hidem : ∀ state item, step (step state item) item = step state item)
    {items more : List α} (hsubset : items ⊆ more) (state : β) :
    (items ++ more).foldl step state = more.foldl step state := by
  induction items generalizing state with
  | nil => rfl
  | cons first rest ih =>
    rw [List.cons_subset] at hsubset
    rw [List.cons_append, List.foldl_cons, ih hsubset.2, foldl_absorb hidem hsubset.1]

/-- Folding steps that commute and are idempotent depends only on which of them are taken. -/
theorem foldl_eq_of_mem_iff (hidem : ∀ state item, step (step state item) item = step state item)
    {first second : List α} (hsame : ∀ item, item ∈ first ↔ item ∈ second) (state : β) :
    first.foldl step state = second.foldl step state :=
  calc first.foldl step state
    _ = (second ++ first).foldl step state :=
      (foldl_absorb_all hidem (fun item ↦ (hsame item).mpr) state).symm
    _ = (first ++ second).foldl step state := List.perm_append_comm.foldl_eq state
    _ = second.foldl step state := foldl_absorb_all hidem (fun item ↦ (hsame item).mp) state

end Steps

/-! ### The steps of an exit -/

/-- Advertising once the update mode has ended: the transport is no longer offered, and a radio that
is ready stops. -/
def Advertising.silenced (state : Advertising) : Advertising :=
  placed { state with
    updatesOffered := false
    mode := if state.ready then .off else state.mode }

namespace Tag

/-- The tag once an active mode has been left. -/
def left (mode : Mode) (tag : Tag Peripherals) : Tag Peripherals :=
  { tag with
    ledger := tag.ledger.withActive mode false
    device := { tag.device with
      advertising :=
        if mode = .dfu then tag.device.advertising.silenced else tag.device.advertising
      light := tag.device.light.withCondition mode.indication false } }

def disarmed (timer : Timer) (tag : Tag Peripherals) : Tag Peripherals :=
  { tag with timers := tag.timers.withDeadline timer none }

/-- The tag once the pending reset has been run. -/
def erased (tag : Tag Peripherals) : Tag Peripherals :=
  let out := KeyRing.factoryReset.run tag.device.store
  { tag with
    ledger := { tag.ledger with
      pending := none
      resetDone := tag.ledger.resetDone || out.result.isOk }
    resets := if out.result.isOk then tag.resets.countExecuted else tag.resets.countFailed
    device := { tag.device with
      advertising := { tag.device.advertising with
        rotationSuspended :=
          tag.device.advertising.rotationSuspended && !tag.ledger.awaitsProvisioning }
      store := out.state } }

theorem left_commute (mode other : Mode) : Function.Commute (left mode) (left other) := by
  intro tag
  cases mode <;> cases other <;> rfl

theorem left_commute_disarmed (mode : Mode) (timer : Timer) :
    Function.Commute (left mode) (disarmed timer) :=
  fun _ ↦ rfl

theorem left_commute_erased (mode : Mode) : Function.Commute (left mode) erased := by
  intro tag
  cases mode <;> rfl

theorem disarmed_commute (timer other : Timer) :
    Function.Commute (disarmed timer) (disarmed other) := by
  intro tag
  unfold disarmed
  rw [Timers.withDeadline_none_comm]

theorem disarmed_disarmed (timer : Timer) (tag : Tag Peripherals) :
    disarmed timer (disarmed timer tag) = disarmed timer tag := by
  have hidle : (tag.timers.withDeadline timer none).isArmed timer = false := by
    simp [Timers.isArmed]
  unfold disarmed
  rw [Timers.withDeadline_none_of_not_armed hidle]

theorem erased_commute_disarmed (timer : Timer) : Function.Commute erased (disarmed timer) :=
  fun _ ↦ rfl

/-- The tag after it has been told to leave a mode, whether or not the mode is active. -/
def leave (mode : Mode) : Tag Peripherals → Tag Peripherals :=
  whenDue (·.ledger.isActive mode) (left mode)

/-- The tag after its reset timer has fired, whether or not a reset is pending. -/
def erase : Tag Peripherals → Tag Peripherals :=
  whenDue (·.ledger.pending.isSome) erased

theorem leave_commute (mode other : Mode) : Function.Commute (leave mode) (leave other) := by
  by_cases hsame : mode = other
  · subst hsame
    exact .refl _
  · refine whenDue_commute_whenDue (left_commute mode other) (fun tag ↦ ?_) fun tag ↦ ?_
    · simp [left, hsame]
    · simp [left, Ne.symm hsame]

theorem leave_commute_disarmed (mode : Mode) (timer : Timer) :
    Function.Commute (leave mode) (disarmed timer) :=
  whenDue_commute (left_commute_disarmed mode timer) fun _ ↦ rfl

theorem leave_commute_erase (mode : Mode) : Function.Commute (leave mode) erase := by
  refine whenDue_commute_whenDue (left_commute_erased mode) (fun tag ↦ ?_) fun tag ↦ ?_
  · rfl
  · simp [left]

theorem erase_commute_disarmed (timer : Timer) : Function.Commute erase (disarmed timer) :=
  whenDue_commute (erased_commute_disarmed timer) fun _ ↦ rfl

theorem leave_leave (mode : Mode) (tag : Tag Peripherals) :
    leave mode (leave mode tag) = leave mode tag :=
  whenDue_whenDue (fun tag ↦ by simp [left]) tag

theorem erase_erase (tag : Tag Peripherals) : erase (erase tag) = erase tag :=
  whenDue_whenDue (fun _ ↦ rfl) tag

end Tag

/-- An event that ends something: a timer has expired, or the beacon has closed a read window. -/
inductive Exit where
  | expired (timer : Timer)
  | closed (mode : ReadMode)
deriving DecidableEq

namespace Exit

def event : Exit → Event
  | expired timer => .timerExpired timer
  | closed mode => .readModeExited mode

/-- The tag after an exit. -/
def leaves : Exit → Tag Peripherals → Tag Peripherals
  | expired timer =>
    match Mode.ofTimer timer with
    | some mode => Tag.leave mode
    | none => Tag.erase
  | closed mode => Tag.leave (Mode.ofReadMode mode) ∘ Tag.disarmed (Mode.ofReadMode mode).timer

@[simp] theorem leaves_timer (mode : Mode) : (expired mode.timer).leaves = Tag.leave mode := by
  simp [leaves]

/-- What commutes with every part of an exit commutes with the exit. -/
theorem leaves_commute_of {step : Tag Peripherals → Tag Peripherals}
    (hleave : ∀ mode, Function.Commute (Tag.leave mode) step)
    (hdisarmed : ∀ timer, Function.Commute (Tag.disarmed timer) step)
    (herase : Function.Commute Tag.erase step) (exit : Exit) :
    Function.Commute exit.leaves step := by
  cases exit with
  | closed mode => exact (hleave _).comp_left (hdisarmed _)
  | expired timer =>
    cases timer using Timer.mode_cases with
    | factoryReset => exact herase
    | mode mode => simpa using hleave mode

theorem leaves_commute (first second : Exit) :
    Function.Commute first.leaves second.leaves := by
  refine leaves_commute_of (fun mode ↦ ?_) (fun timer ↦ ?_) ?_ first
  · exact (leaves_commute_of (Tag.leave_commute · mode)
      (fun timer ↦ (Tag.leave_commute_disarmed mode timer).symm)
      (Tag.leave_commute_erase mode).symm second).symm
  · exact (leaves_commute_of (Tag.leave_commute_disarmed · timer) (Tag.disarmed_commute · timer)
      (Tag.erase_commute_disarmed timer) second).symm
  · exact (leaves_commute_of Tag.leave_commute_erase
      (fun timer ↦ (Tag.erase_commute_disarmed timer).symm) (.refl _) second).symm

instance : RightCommutative fun (tag : Tag Peripherals) (exit : Exit) ↦ exit.leaves tag :=
  ⟨fun tag first second ↦ leaves_commute second first tag⟩

theorem leaves_leaves (exit : Exit) (tag : Tag Peripherals) :
    exit.leaves (exit.leaves tag) = exit.leaves tag := by
  cases exit with
  | closed mode =>
    have hcommute := Tag.leave_commute_disarmed (Mode.ofReadMode mode) (Mode.ofReadMode mode).timer
    calc Tag.leave _ (Tag.disarmed _ (Tag.leave _ (Tag.disarmed _ tag)))
      _ = Tag.disarmed _ (Tag.leave _ (Tag.leave _ (Tag.disarmed _ tag))) := hcommute _
      _ = Tag.disarmed _ (Tag.leave _ (Tag.disarmed _ tag)) := by rw [Tag.leave_leave]
      _ = Tag.leave _ (Tag.disarmed _ (Tag.disarmed _ tag)) := (hcommute _).symm
      _ = Tag.leave _ (Tag.disarmed _ tag) := by rw [Tag.disarmed_disarmed]
  | expired timer =>
    cases timer using Timer.mode_cases with
    | factoryReset => exact Tag.erase_erase tag
    | mode mode => simpa using Tag.leave_leave mode tag

end Exit

/-! ### The handling of an exit

The rules of `Handler.ends_bind` and those after it, for directions to the peripherals: what they
answer and how they change is known.
-/

namespace Peripherals

open Handler

variable {α : Type} {tag : Tag Peripherals}

theorem ends_direction {act : Logged Peripherals α} {call : α → Call}
    {post : List Call → Except (Stop HandlingError) α → Tag Peripherals → Prop} :
    Ends (do
      let answer ← onDevice act
      record (call answer)
      return answer) tag post ↔
      let out := (act.run tag.device).value
      post [call out.1] (.ok out.1) { tag with device := out.2 } := by
  simp [Ends, Except.map]

theorem ends_advertise {mode : AdvertisingMode}
    {post : List Call → Except (Stop HandlingError) (Except DeviceError Unit) →
      Tag Peripherals → Prop} :
    Ends (advertise mode) tag post ↔
      let out := if tag.device.advertising.ready
        then (.ok (), .placed { tag.device.advertising with mode })
        else (.error .unavailable, tag.device.advertising)
      post [.advertise mode out.1] (.ok out.1)
        { tag with device := { tag.device with advertising := out.2 } } := by
  rw [← Advertising.value_advertise]
  exact ends_direction

theorem ends_factoryReset
    {post : List Call → Except (Stop HandlingError) (Except DeviceError Unit) →
      Tag Peripherals → Prop} :
    Ends factoryReset tag post ↔
      let out := KeyRing.factoryReset.run tag.device.store
      post [.factoryReset out.result] (.ok out.result)
        { tag with device := { tag.device with store := out.state } } :=
  ends_direction

section Orders

variable {post : List Call → Except (Stop HandlingError) Unit → Tag Peripherals → Prop}

theorem ends_order {act : Logged Peripherals Unit} {call : Call} :
    Ends (do
      onDevice act
      record call) tag post ↔
      post [call] (.ok ()) { tag with device := (act.run tag.device).value.2 } := by
  simp [Ends]

theorem ends_suspendRotation {suspend : Bool} : Ends (suspendRotation suspend) tag post ↔
    post [.suspendRotation suspend] (.ok ()) { tag with device := { tag.device with
      advertising := { tag.device.advertising with rotationSuspended := suspend } } } :=
  ends_order

theorem ends_offerUpdates {offer : Bool} : Ends (offerUpdates offer) tag post ↔
    post [.offerUpdates offer] (.ok ()) { tag with device := { tag.device with
      advertising := .placed { tag.device.advertising with updatesOffered := offer } } } := by
  rw [← Advertising.value_offerUpdates]
  exact ends_order

theorem ends_indicate {state : Indication} {active : Bool} :
    Ends (Handler.indicate state active) tag post ↔
      post [.indicate state active] (.ok ()) { tag with device := { tag.device with
        light := tag.device.light.withCondition state active } } :=
  ends_order

end Orders

theorem ends_leave {mode : Mode} :
    Ends (TimedMode.leave mode) tag fun _ _ after ↦ after = tag.leave mode := by
  unfold TimedMode.leave Tag.leave whenDue
  rw [ends_bind, ends_ledger]
  cases hactive : tag.ledger.isActive mode with
  | false => simp [hactive]
  | true =>
    simp only [hactive, if_true, ends_bind, ends_modifyLedger]
    by_cases hdfu : mode = .dfu
    · subst hdfu
      simp only [if_true, ends_bind, ends_offerUpdates, ends_advertise]
      cases hready : tag.device.advertising.ready <;>
        simp [ends_indicate, Tag.left, Advertising.silenced, Advertising.placed, hready]
    · simp [hdfu, ends_indicate, Tag.left]

theorem ends_readModeExited {mode : ReadMode} :
    Ends (TimedMode.readModeExited mode) tag fun _ _ after ↦
      after = (Exit.closed mode).leaves tag := by
  unfold TimedMode.readModeExited
  rw [ends_bind, ends_cancel]
  exact ends_leave

theorem ends_timedOut {mode : Mode} :
    Ends (TimedMode.timedOut mode) tag fun _ _ after ↦ after = tag.leave mode := by
  unfold TimedMode.timedOut
  rw [ends_bind, ends_info]
  exact ends_leave

theorem ends_resumeRotationAfter {ledger : Ledger}
    {post : List Call → Except (Stop HandlingError) Unit → Tag Peripherals → Prop} :
    Ends (Provisioning.resumeRotationAfter ledger.pending) tag post ↔
      post (Provisioning.resumption ledger.pending) (.ok ()) { tag with device := { tag.device with
        advertising := { tag.device.advertising with
          rotationSuspended :=
            tag.device.advertising.rotationSuspended && !ledger.awaitsProvisioning } } } := by
  unfold Provisioning.resumeRotationAfter Provisioning.resumption Ledger.awaitsProvisioning
  by_cases hpending : ledger.pending = some .provisioningTimeout
  · simp [hpending, ends_suspendRotation]
  · simp [hpending]

theorem ends_resetExpired :
    Ends Engine.resetExpired tag fun _ _ after ↦ after = tag.erase := by
  unfold Engine.resetExpired Reset.expire Tag.erase whenDue
  rw [ends_bind, ends_ledger]
  cases hpending : tag.ledger.pending with
  | none =>
    have hawaits : tag.ledger.awaitsProvisioning = false := by
      simp [Ledger.awaitsProvisioning, hpending]
    simp only [hpending, ends_bind, ends_ledger, ends_warn, ends_pure]
    rw [← hpending, ends_resumeRotationAfter]
    simp [hawaits, hpending]
  | some cause =>
    simp only [hpending, ends_bind, ends_ledger, ends_modifyLedger, ends_info, ends_factoryReset]
    rcases hreset : KeyRing.factoryReset.run tag.device.store with ⟨reason | _, store, lines⟩
    · simp only [ends_bind, ends_modifyResets, ends_error, ends_pure]
      rw [← hpending, ends_resumeRotationAfter]
      simp [hpending, Tag.erased, hreset, Except.isOk, Except.toBool]
    · simp only [ends_bind, ends_modifyResets, ends_modifyLedger, ends_info, ends_pure]
      rw [← hpending, ends_resumeRotationAfter]
      simp [hpending, Tag.erased, hreset, Except.isOk, Except.toBool]

end Peripherals

namespace Engine

open Handler

variable {config : Config} {tag : Tag Peripherals}

/-- The handling of an exit leaves the tag as the exit does. -/
theorem ends_exit {exit : Exit} :
    Ends (handle config exit.event) tag fun _ _ after ↦ after = exit.leaves tag := by
  cases exit with
  | closed mode => exact Peripherals.ends_readModeExited
  | expired timer =>
    cases timer using Timer.mode_cases with
    | factoryReset => exact Peripherals.ends_resetExpired
    | mode mode =>
      show Ends (timerExpired mode.timer) tag _
      simpa [timerExpired] using Peripherals.ends_timedOut

/-- No exit arms a timer, so none runs out of clock. -/
theorem result_exit {exit : Exit} {before after : Memory} {calls : List Call}
    {result : Except (Stop HandlingError) Unit}
    (heffect : Effect config before exit.event calls result after) :
    ∃ outcome : Except HandlingError Unit, result = outcome.mapError .failed := by
  cases exit with
  | expired timer => exact result_timerExpired heffect
  | closed mode =>
    cases heffect with
    | inactive hinactive => exact ⟨.ok (), rfl⟩
    | left stopped hactive => exact ⟨.ok (), rfl⟩

theorem perform_exit (exit : Exit) (tag : Tag Peripherals) :
    ∃ trace, (perform config (.event exit.event)).run tag = ⟨.ok (), exit.leaves tag, trace⟩ := by
  obtain ⟨-, hleaves⟩ := @ends_exit config tag exit
  obtain ⟨-, heffect⟩ := @ends_handle _ _ tag config exit.event
  obtain ⟨outcome, houtcome⟩ := result_exit heffect
  rcases hhandle : (handle config exit.event).run tag with ⟨result, state, body⟩
  rw [hhandle] at hleaves houtcome
  have hsettle : Stop.settle result = .ok outcome := Stop.settle_eq_ok.mpr houtcome
  refine ⟨body ++ [.handled tag.toMemory exit.event outcome], ?_⟩
  simp [perform, run_deliver, hhandle, hsettle, hleaves, Outcome.map, Except.map]

/-- Of the exits, only the expiry of the reset timer touches the pending reset, and runs it. -/
theorem reset_exit {exit : Exit} {before after : Memory} {calls : List Call}
    {result : Except (Stop HandlingError) Unit}
    (heffect : Effect config before exit.event calls result after) :
    after.ledger.pending =
        (if exit = .expired .factoryReset then none else before.ledger.pending) ∧
      calls.countP Call.isReset =
        if exit = .expired .factoryReset ∧ before.ledger.pending.isSome then 1 else 0 := by
  cases exit with
  | expired timer =>
    obtain ⟨hreset, hcalls⟩ := heffect.reset_timerExpired
    simp only [Exit.expired.injEq]
    exact ⟨congrArg Prod.fst hreset, hcalls⟩
  | closed mode =>
    have hreset := heffect.reset_other (by simp [Exit.event]) (by simp [Exit.event])
      (by simp [Exit.event])
    have hcalls := heffect.countP_isReset (by simp [Exit.event])
    have hpending : after.ledger.pending = before.ledger.pending := congrArg Prod.fst hreset
    exact ⟨by simpa using hpending, by simpa using hcalls⟩

theorem reset_exits {exits : List Exit} {run : Run (Tag Peripherals) (Move Peripherals)}
    (hfollow : Run.follow (perform config) tag (exits.map (.event ·.event)) = .ok run) :
    run.state.ledger.pending =
        (if .expired .factoryReset ∈ exits then none else tag.ledger.pending) ∧
      (Trace.calls run.trace).countP Call.isReset =
        if .expired .factoryReset ∈ exits ∧ tag.ledger.pending.isSome then 1 else 0 := by
  induction exits using List.reverseRecOn generalizing run with
  | nil =>
    cases hfollow
    simp [Run.trace]
  | append_singleton exits last ih =>
    rw [List.map_append] at hfollow
    obtain ⟨shorter, hshorter, hextend⟩ := Run.follow_append_singleton.mp hfollow
    obtain ⟨trace, after, hrun, rfl⟩ := Run.extend_eq_ok.mp hextend
    obtain ⟨outcome, heffect⟩ := (perform_eq_ok hrun).effect
    obtain ⟨hpending, hcalls⟩ := ih hshorter
    obtain ⟨hlast, hmore⟩ := reset_exit heffect
    rw [Run.state_append, Run.trace_append, Trace.calls_append, List.countP_append, hcalls, hmore,
      hlast, hpending]
    by_cases hbefore : .expired .factoryReset ∈ exits
    · simp [hbefore]
    · by_cases hnow : .expired .factoryReset = last
      · simp [hbefore, ← hnow]
      · simp [hbefore, hnow, Ne.symm hnow]

/-- Whatever the state of the tag and of its peripherals, what a list of exits leaves depends only
on which exits occur in it: neither their order nor a repetition shows in the ledger, the timers,
the counts of resets, the advertisement, the store or the light. A reset is called for at most
once, however often its timer is reported. -/
theorem exits_confluent (config : Config) (tag : Tag Peripherals) (first second : List Exit)
    (hsame : ∀ exit, exit ∈ first ↔ exit ∈ second) :
    ∃ one other, Run.follow (perform config) tag (first.map (.event ·.event)) = .ok one ∧
      Run.follow (perform config) tag (second.map (.event ·.event)) = .ok other ∧
      one.state = other.state ∧
      (Trace.calls one.trace).countP Call.isReset =
        (if .expired .factoryReset ∈ first ∧ tag.ledger.pending.isSome then 1 else 0) ∧
      (Trace.calls other.trace).countP Call.isReset =
        (Trace.calls one.trace).countP Call.isReset := by
  obtain ⟨one, hone, honeEnd⟩ := Run.follow_map_total (@perform_exit config) first tag
  obtain ⟨other, hother, hotherEnd⟩ := Run.follow_map_total (@perform_exit config) second tag
  have hfirst := (reset_exits hone).2
  have hsecond := (reset_exits hother).2
  refine ⟨one, other, hone, hother, ?_, hfirst, ?_⟩
  · rw [honeEnd, hotherEnd]
    exact foldl_eq_of_mem_iff (fun tag exit ↦ exit.leaves_leaves tag) hsame tag
  · rw [hfirst, hsecond]
    simp only [hsame]

/-- Two modes are active, and a reset is pending for want of provisioning. -/
def awaitingExits : Tag Peripherals where
  ledger := { recovery := true, dfu := true, keyPresent := true, pending := some .provisioningTimeout }
  timers := { now := 300, recovery := some 300, dfu := some 400, factoryReset := some 300 }
  device :=
    { advertising :=
        { ready := true, mode := .notDiscoverable, rotationSuspended := true, updatesOffered := true,
          placement := .scanResponse }
      windows := .create {} 0
      light := { recovery := true, dfu := true } }

/-- The recovery window is closed by its timer and by the beacon, in either order, and the reset
timer is reported twice or once: the reset runs once. -/
theorem recovery_closed_twice :
    let early : List Exit := [.expired .recovery, .expired .factoryReset, .closed .recovery,
      .expired .factoryReset, .expired .dfu]
    let late : List Exit := [.closed .recovery, .expired .dfu, .expired .recovery,
      .expired .factoryReset]
    (∀ exit, exit ∈ early ↔ exit ∈ late) ∧
    ∃ one other, Run.follow (perform {}) awaitingExits (early.map (.event ·.event)) = .ok one ∧
      Run.follow (perform {}) awaitingExits (late.map (.event ·.event)) = .ok other ∧
      one.state = other.state ∧ (Trace.calls one.trace).countP Call.isReset = 1 := by
  intro early late
  have hsame : ∀ exit, exit ∈ early ↔ exit ∈ late := by
    intro exit
    cases exit with
    | expired timer => cases timer <;> decide
    | closed mode => cases mode <;> decide
  obtain ⟨one, other, hone, hother, hstate, hcalls, -⟩ :=
    exits_confluent {} awaitingExits early late hsame
  exact ⟨hsame, one, other, hone, hother, hstate, hcalls⟩

end Engine

end TagControl
