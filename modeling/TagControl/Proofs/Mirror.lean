import TagControl.Peripherals
import TagControl.Proofs.Directed
/-!
The peripherals mirror the ledger. They hold copies of what the ledger says: the conditions that the
light shows, whether the address stands still, whether the update transport is offered, and the
placement of its service identifier, which depends on the offer and on what is advertised. Each copy
follows the directions of its own kind (`Device.ObeysAll.last`), and those tell of all that changes
in the ledger, so the copies never lag behind it, whichever directions fail.
-/

set_option autoImplicit false

namespace TagControl

/-! ### Advertising -/

namespace Placement

theorem value_moveTo (placement before : Placement) :
    ((moveTo placement).run before).value.2 = placement := by
  unfold moveTo
  simp only [StateT.run_bind, StateT.run_get]
  by_cases hsame : before = placement
  · simp [hsame]
  · simp [hsame, Log.debug]

theorem inAdvertisement_proper (updatesOffered : Bool) (mode : AdvertisingMode) :
    (proper updatesOffered mode).inAdvertisement =
      if updatesOffered ∧ mode = .discoverable then some serviceId else none := by
  cases updatesOffered <;> cases mode <;> rfl

theorem inScanResponse_proper (updatesOffered : Bool) (mode : AdvertisingMode) :
    (proper updatesOffered mode).inScanResponse =
      if updatesOffered ∧ mode = .notDiscoverable then some serviceId else none := by
  cases updatesOffered <;> cases mode <;> rfl

end Placement

namespace Advertising

/-- The state with its placement brought up to date. -/
def placed (state : Advertising) : Advertising :=
  { state with placement := .proper state.updatesOffered state.mode }

theorem value_updatePlacement (state : Advertising) :
    (updatePlacement.run state).value.2 = state.placed := by
  simp [updatePlacement, placed, Placement.value_moveTo]

theorem value_advertise (mode : AdvertisingMode) (state : Advertising) :
    ((advertise mode).run state).value =
      if state.ready then (.ok (), placed { state with mode })
      else (.error .unavailable, state) := by
  unfold advertise
  simp only [StateT.run_bind, StateT.run_get]
  cases hready : state.ready with
  | false => simp [hready]
  | true =>
    by_cases hsame : state.mode = mode
    · simp [hready, hsame, value_updatePlacement]
    · simp [hready, hsame, value_updatePlacement, Log.info]

theorem value_offerUpdates (offer : Bool) (state : Advertising) :
    ((offerUpdates offer).run state).value.2 = placed { state with updatesOffered := offer } := by
  simp [offerUpdates, Log.info, value_updatePlacement]

/-- The advertising after a call: the placement follows the mode and the offer. -/
def afterCall (state : Advertising) : Call → Advertising
  | .advertise mode (.ok ()) => placed { state with mode }
  | .suspendRotation suspend => { state with rotationSuspended := suspend }
  | .offerUpdates offer => placed { state with updatesOffered := offer }
  | _ => state

theorem rotationSuspended_afterCall (state : Advertising) (call : Call) :
    (state.afterCall call).rotationSuspended =
      (Call.rotation? call).getD state.rotationSuspended := by
  cases call with
  | advertise mode answer => cases answer <;> rfl
  | _ => rfl

theorem updatesOffered_afterCall (state : Advertising) (call : Call) :
    (state.afterCall call).updatesOffered = (Call.offer? call).getD state.updatesOffered := by
  cases call with
  | advertise mode answer => cases answer <;> rfl
  | _ => rfl

theorem placement_afterCall {state : Advertising}
    (hplaced : state.placement = .proper state.updatesOffered state.mode) (call : Call) :
    (state.afterCall call).placement =
      .proper (state.afterCall call).updatesOffered (state.afterCall call).mode := by
  cases call with
  | advertise mode answer =>
    cases answer with
    | ok _ => rfl
    | error reason => exact hplaced
  | suspendRotation suspend => exact hplaced
  | offerUpdates offer => rfl
  | _ => exact hplaced

end Advertising

/-! ### Copies -/

/-- A flag that every direction of a kind sets, and no other direction touches, is what the last
direction of that kind said. -/
theorem Device.ObeysAll.last {σ : Type} [Device σ] {kind : Call → Option Bool} (flag : σ → Bool)
    (heach : ∀ {device after : σ} {call : Call}, Device.Obeys device call after →
      flag after = (kind call).getD (flag device))
    {device after : σ} {calls : List Call} (hobeys : Device.ObeysAll device calls after) :
    flag after = (Call.last kind calls).getD (flag device) := by
  induction hobeys with
  | nil => rfl
  | @cons device middle after call calls hfirst hrest ih =>
    rw [ih, heach hfirst, Call.last_cons]
    cases Call.last kind calls <;> rfl

namespace Peripherals

section Obeys

variable {parts after : Peripherals} {call : Call}

theorem light_obeys (hobeys : Device.Obeys parts call after) (condition : Indication) :
    after.light.holds condition =
      (Call.shown? condition call).getD (parts.light.holds condition) := by
  cases hobeys with
  | indicate state active =>
    show (parts.light.withCondition state active).holds condition = _
    by_cases hsame : state = condition
    · simp [Call.shown?, hsame]
    · simp [Call.shown?, hsame, Ne.symm hsame]
  | _ => rfl

theorem advertising_obeys (hobeys : Device.Obeys parts call after) :
    after.advertising = parts.advertising.afterCall call := by
  cases hobeys with
  | advertise mode =>
    show (((Advertising.advertise mode).run parts.advertising).value.2 : Advertising) =
      parts.advertising.afterCall (.advertise mode
        ((Advertising.advertise mode).run parts.advertising).value.1)
    rw [Advertising.value_advertise]
    split <;> rfl
  | suspendRotation suspend => rfl
  | offerUpdates offer => exact Advertising.value_offerUpdates offer parts.advertising
  | _ => rfl

end Obeys

/-- What happens to the peripherals by themselves: the radio becomes ready or not, the store changes
or begins to fail, time passes for the light. No condition of the ledger is shown or hidden. -/
structure KeepsDirected (change : Peripherals → Peripherals) : Prop where
  advertising : ∀ parts, (change parts).advertising =
    { parts.advertising with ready := (change parts).advertising.ready }
  light : ∀ parts condition, condition ≠ .appRunning →
    (change parts).light.holds condition = parts.light.holds condition

theorem keepsDirected_ready (ready : Bool) :
    KeepsDirected fun parts ↦ { parts with advertising := { parts.advertising with ready } } :=
  ⟨fun _ ↦ rfl, fun _ _ _ ↦ rfl⟩

theorem keepsDirected_store (change : FaultyStore → FaultyStore) :
    KeepsDirected fun parts ↦ { parts with store := change parts.store } :=
  ⟨fun _ ↦ rfl, fun _ _ _ ↦ rfl⟩

/-- The peripherals are as the ledger says. -/
structure Mirrors (parts : Peripherals) (ledger : Ledger) : Prop where
  provisioned : parts.light.holds .provisioned = ledger.provisioned
  active : ∀ mode : Mode, parts.light.holds mode.indication = ledger.isActive mode
  rotation : parts.advertising.rotationSuspended = ledger.awaitsProvisioning
  offer : parts.advertising.updatesOffered = ledger.dfu
  placement : parts.advertising.placement = .proper ledger.dfu parts.advertising.mode

theorem Mirrors.changed {parts : Peripherals} {ledger : Ledger}
    {change : Peripherals → Peripherals} (hmirrors : Mirrors parts ledger)
    (hkeeps : KeepsDirected change) : Mirrors (change parts) ledger where
  provisioned := (hkeeps.light parts .provisioned (by decide)).trans hmirrors.provisioned
  active mode := by
    rw [hkeeps.light parts mode.indication (by cases mode <;> decide)]
    exact hmirrors.active mode
  rotation := by
    rw [hkeeps.advertising parts]
    exact hmirrors.rotation
  offer := by
    rw [hkeeps.advertising parts]
    exact hmirrors.offer
  placement := by
    rw [hkeeps.advertising parts]
    exact hmirrors.placement

/-- Calls that tell of all that changes in the ledger keep the peripherals as it says. -/
theorem Mirrors.directed {parts after : Peripherals} {before ledger : Ledger} {calls : List Call}
    (hmirrors : Mirrors parts before) (hinforms : Engine.Informs before calls ledger)
    (hobeys : Device.ObeysAll parts calls after) : Mirrors after ledger := by
  have hoffer : after.advertising.updatesOffered = ledger.dfu := by
    rw [hobeys.last (fun parts ↦ parts.advertising.updatesOffered) fun hcall ↦ by
      rw [advertising_obeys hcall, Advertising.updatesOffered_afterCall], hmirrors.offer]
    exact hinforms.offer
  have hplaced : after.advertising.placement =
      .proper after.advertising.updatesOffered after.advertising.mode := by
    have hbefore := hmirrors.placement
    rw [← hmirrors.offer] at hbefore
    clear hmirrors hinforms hoffer
    induction hobeys with
    | nil => exact hbefore
    | cons hfirst hrest ih =>
      refine ih ?_
      rw [advertising_obeys hfirst]
      exact Advertising.placement_afterCall hbefore _
  constructor
  · rw [hobeys.last (fun parts ↦ parts.light.holds .provisioned) (light_obeys · _),
      hmirrors.provisioned]
    exact hinforms.provisioned
  · intro mode
    rw [hobeys.last (fun parts ↦ parts.light.holds mode.indication) (light_obeys · _),
      hmirrors.active]
    exact hinforms.active mode
  · rw [hobeys.last (fun parts ↦ parts.advertising.rotationSuspended) fun hcall ↦ by
      rw [advertising_obeys hcall, Advertising.rotationSuspended_afterCall], hmirrors.rotation]
    exact hinforms.rotation
  · exact hoffer
  · rw [hplaced, hoffer]

theorem Mirrors.take {turn : Controller.Turn Peripherals} {before after : Controller Peripherals}
    {trace : List Entry} (hmirrors : Mirrors before.tag.device before.tag.ledger)
    (hkeeps : ∀ change, turn = .move (.outside change) → KeepsDirected change)
    (hrun : (Controller.take turn).run before = ⟨.ok (), after, trace⟩) :
    Mirrors after.tag.device after.tag.ledger := by
  by_cases houtside : ∃ change, turn = .move (.outside change)
  · obtain ⟨change, rfl⟩ := houtside
    cases hrun
    exact hmirrors.changed (hkeeps change rfl)
  · have hdirects := Controller.directs_take fun change hturn ↦ houtside ⟨change, hturn⟩
    have hobeys := hdirects.obeysAll hrun
    exact hmirrors.directed (Controller.take_eq_ok hrun).informs hobeys

end Peripherals

namespace Controller

open Peripherals

/-- After every event of a run, handled or abandoned, the peripherals show what the ledger says:
each condition, whether the address stands still, whether the update transport is offered, and its
identifier in the advertisement or in the scan response exactly where it belongs. Between events
the radio and the store may change in any way. -/
theorem peripherals_mirror_ledger (config : Config) (start : Instant)
    (turns : List (Turn Peripherals)) (run : Run (Controller Peripherals) (Turn Peripherals))
    (hkeeps : ∀ change, .move (.outside change) ∈ turns → KeepsDirected change)
    (hfollow : Run.follow take
      (powerOn config start (Peripherals.create config start)).value turns = .ok run) :
    ∀ controller ∈ run.states,
      let parts := controller.tag.device
      let ledger := controller.tag.ledger
      Mirrors parts ledger ∧
        parts.advertising.placement.inAdvertisement =
          (if ledger.dfu ∧ parts.advertising.mode = .discoverable then some Placement.serviceId
            else none) ∧
        parts.advertising.placement.inScanResponse =
          (if ledger.dfu ∧ parts.advertising.mode = .notDiscoverable then some Placement.serviceId
            else none) := by
  have hmirrors : ∀ controller ∈ run.states,
      Mirrors controller.tag.device controller.tag.ledger := by
    refine Run.follow_invariant hfollow ⟨rfl, fun mode ↦ by cases mode <;> rfl, rfl, rfl, rfl⟩ ?_
    intro before turn trace after hbefore hturn hrun
    exact hbefore.take (fun change heq ↦ hkeeps change (heq ▸ hturn)) hrun
  intro controller hcontroller
  have hstate := hmirrors controller hcontroller
  refine ⟨hstate, ?_, ?_⟩
  · rw [hstate.placement, Placement.inAdvertisement_proper]
  · rw [hstate.placement, Placement.inScanResponse_proper]

/-- The update mode is entered, then the radio is lost and the keys cannot be read. -/
def losingRadio : List (Turn Peripherals) :=
  [.move (.outside fun parts ↦
      { parts with advertising := { parts.advertising with ready := true } }),
    .event (.requested .dfu),
    .move (.outside fun parts ↦
      { parts with advertising := { parts.advertising with ready := false } }),
    .move (.outside fun parts ↦
      { parts with
        store := parts.store.setFault ⟨.read, KeyRing.keySpace, KeyRing.slotKey 0⟩ (some .io) }),
    .event (.provisioningChanged true)]

/-- A report that is abandoned leaves the light and the advertisement as the ledger says. -/
theorem ledger_mirrored_after_failed_query :
    ∃ run, Run.follow take (powerOn {} 0 (Peripherals.create {} 0)).value losingRadio = .ok run ∧
      (Trace.handlings run.trace).map (·.outcome) =
        [.ok (), .error (.stepFailed "query account key" .io)] ∧
      run.state.tag.ledger.dfu = true ∧ run.state.tag.ledger.provisioned = true ∧
      Mirrors run.state.tag.device run.state.tag.ledger ∧
      run.state.tag.device.advertising.placement.inAdvertisement = some Placement.serviceId := by
  have hkeeps : ∀ change, .move (.outside change) ∈ losingRadio → KeepsDirected change := by
    intro change hchange
    simp only [losingRadio, List.mem_cons, Turn.move.injEq, Move.outside.injEq, reduceCtorEq,
      List.not_mem_nil, false_or, or_false] at hchange
    obtain rfl | rfl | rfl := hchange
    · exact keepsDirected_ready true
    · exact keepsDirected_ready false
    · exact keepsDirected_store fun store ↦
        store.setFault ⟨.read, KeyRing.keySpace, KeyRing.slotKey 0⟩ (some .io)
  obtain ⟨run, hrun, houtcomes, hdfu, hprovisioned, hmode⟩ : ∃ run,
      Run.follow take (powerOn {} 0 (Peripherals.create {} 0)).value losingRadio = .ok run ∧
      (Trace.handlings run.trace).map (·.outcome) =
        [.ok (), .error (.stepFailed "query account key" .io)] ∧
      run.state.tag.ledger.dfu = true ∧ run.state.tag.ledger.provisioned = true ∧
      run.state.tag.device.advertising.mode = .discoverable :=
    ⟨_, rfl, by decide +kernel, by decide +kernel, by decide +kernel, by decide +kernel⟩
  obtain ⟨hmirrors, hadvertised, -⟩ :=
    peripherals_mirror_ledger {} 0 losingRadio run hkeeps hrun _ run.state_mem_states
  rw [if_pos ⟨hdfu, hmode⟩] at hadvertised
  exact ⟨run, hrun, houtcomes, hdfu, hprovisioned, hmirrors, hadvertised⟩

end Controller

end TagControl
