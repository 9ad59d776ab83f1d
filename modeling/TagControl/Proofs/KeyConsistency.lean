import TagControl.Bench
import TagControl.Proofs.PendingReset
/-!
The remembered answer about account keys and the reported provisioning state. The two may differ,
but if every question about the keys is answered and only a reset takes a key away (`KeyLife`), then
they differ only while a reset is pending or the report that follows a reset is awaited.

Events do not carry this along by itself: a key that is remembered may since have been erased, and
the next written key is then not taken for the first. `Memory.Tracks` adds what is known of the
store at that moment: a reset has been run and its report is awaited.
-/

set_option autoImplicit false

namespace TagControl

/-! ### The stored key -/

/-- Whether a call asks for the stored keys or erases them. -/
def Call.concernsKeys : Call → Bool
  | holdsKey _ => true
  | factoryReset _ => true
  | _ => false

/-- What one call says of the stored key, and whether it is stored after the call. A question is
answered with what is stored, and a reset does not fail. -/
inductive KeyStep : Bool → Call → Bool → Prop
  | asked {stored : Bool} : KeyStep stored (.holdsKey (.ok stored)) stored
  | erased {stored : Bool} : KeyStep stored (.factoryReset (.ok ())) false
  | other {stored : Bool} {call : Call} (hother : call.concernsKeys = false) :
    KeyStep stored call stored

/-- The life of the stored key along the calls made, from whether it is stored before them to
whether it is stored after. A key may arrive at any moment between the calls, and only a call takes
it away. -/
inductive KeyLife : Bool → List Call → Bool → Prop
  | nil {stored after : Bool} (hkept : stored = true → after = true) : KeyLife stored [] after
  | cons {stored found left after : Bool} {call : Call} {calls : List Call}
      (hkept : stored = true → found = true) (hstep : KeyStep found call left)
      (hrest : KeyLife left calls after) : KeyLife stored (call :: calls) after

namespace KeyLife

variable {stored after : Bool} {calls : List Call}

theorem append_inv {first second : List Call} (hlife : KeyLife stored (first ++ second) after) :
    ∃ middle, KeyLife stored first middle ∧ KeyLife middle second after := by
  induction first generalizing stored with
  | nil => exact ⟨stored, .nil id, hlife⟩
  | cons call first ih =>
    cases hlife with
    | cons hkept hstep hrest =>
      obtain ⟨middle, hfirst, hsecond⟩ := ih hrest
      exact ⟨middle, .cons hkept hstep hfirst, hsecond⟩

/-- Without a reset the key stays. -/
theorem kept (hlife : KeyLife stored calls after) (hreset : calls.countP Call.isReset = 0)
    (hstored : stored = true) : after = true := by
  induction hlife with
  | nil hkept => exact hkept hstored
  | cons hkept hstep hrest ih =>
    rw [List.countP_cons, Nat.add_eq_zero_iff] at hreset
    obtain ⟨hlater, hcall⟩ := hreset
    cases hstep with
    | asked => exact ih hlater (hkept hstored)
    | erased => simp [Call.isReset] at hcall
    | other hother => exact ih hlater (hkept hstored)

/-- Without a reset a question is answered with a state between the first and the last. -/
theorem between (hlife : KeyLife stored calls after) (hreset : calls.countP Call.isReset = 0)
    {answer : Bool} (hanswer : .holdsKey (.ok answer) ∈ calls) :
    (stored = true → answer = true) ∧ (answer = true → after = true) := by
  -- the key stays on either side of the question
  obtain ⟨earlier, later, rfl⟩ := List.append_of_mem hanswer
  obtain ⟨middle, hearlier, hrest⟩ := hlife.append_inv
  rw [List.countP_append, Nat.add_eq_zero_iff, List.countP_cons, Nat.add_eq_zero_iff] at hreset
  cases hrest with
  | cons hkept hstep hlater =>
    cases hstep with
    | asked =>
      exact ⟨fun hstored ↦ hkept (hearlier.kept hreset.1 hstored), hlater.kept hreset.2.1⟩
    | other hother => cases hother

theorem step_of_mem (hlife : KeyLife stored calls after) {call : Call} (hcall : call ∈ calls) :
    ∃ found left, KeyStep found call left := by
  obtain ⟨earlier, later, rfl⟩ := List.append_of_mem hcall
  obtain ⟨middle, -, hrest⟩ := hlife.append_inv
  cases hrest with
  | cons hkept hstep hlater => exact ⟨_, _, hstep⟩

/-- No question about the key fails. -/
theorem answered (hlife : KeyLife stored calls after) (reason : DeviceError) :
    .holdsKey (.error reason) ∉ calls := by
  intro hfailed
  obtain ⟨found, left, hstep⟩ := hlife.step_of_mem hfailed
  cases hstep with
  | other hother => cases hother

/-- No reset fails. -/
theorem resets_succeed (hlife : KeyLife stored calls after) (reason : DeviceError) :
    .factoryReset (.error reason) ∉ calls := by
  intro hfailed
  obtain ⟨found, left, hstep⟩ := hlife.step_of_mem hfailed
  cases hstep with
  | other hother => cases hother

end KeyLife

/-! ### The memory -/

/-- What the ledger knows of provisioning: the remembered answer, the reported state, the pending
reset, and whether the report that follows a reset is awaited. -/
def Memory.knowledge (memory : Memory) : Bool × Bool × Option ResetCause × Bool :=
  (memory.ledger.keyPresent, memory.ledger.provisioned, memory.ledger.pending,
    memory.ledger.resetDone)

/-- The remembered answer differs from the reported state only while a reset is pending or the
report that follows one is awaited. -/
def Memory.Explained (memory : Memory) : Prop :=
  memory.ledger.keyPresent ≠ memory.ledger.provisioned →
    memory.ledger.pending.isSome = true ∨ memory.ledger.resetDone = true

/-- A memory keeps track of the stored key: what differs is explained, and a key that is remembered
but gone was taken by a reset whose report is awaited. -/
structure Memory.Tracks (stored : Bool) (memory : Memory) : Prop where
  explained : memory.Explained
  outdated : memory.ledger.keyPresent = true → stored = false → memory.ledger.resetDone = true

section Effects

variable {config : Config} {before after : Memory} {calls : List Call} {stored final : Bool}
  {result : Except (Stop HandlingError) Unit}

/-- What leaves the knowledge as it was and resets nothing leaves the memory on the track of the
key. -/
theorem Memory.Tracks.kept (htracks : before.Tracks stored) (hlife : KeyLife stored calls final)
    (hreset : calls.countP Call.isReset = 0) (hknown : after.knowledge = before.knowledge) :
    after.Tracks final := by
  simp only [Memory.knowledge, Prod.mk.injEq] at hknown
  obtain ⟨hkey, hprovisioned, hpending, hdone⟩ := hknown
  constructor
  · unfold Memory.Explained
    rw [hkey, hprovisioned, hpending, hdone]
    exact htracks.explained
  · rw [hkey, hdone]
    intro hpresent hgone
    refine htracks.outdated hpresent ?_
    by_contra hstored
    rw [hlife.kept hreset (by simpa using hstored)] at hgone
    cases hgone

/-- A memory that has just been told what is stored is on the track of the key if what then differs
is explained. -/
theorem Memory.tracks_of_answer (hlife : KeyLife stored calls final)
    (hreset : calls.countP Call.isReset = 0)
    (hanswer : .holdsKey (.ok after.ledger.keyPresent) ∈ calls) (hexplained : after.Explained) :
    after.Tracks final := by
  refine ⟨hexplained, fun hpresent hgone ↦ ?_⟩
  rw [(hlife.between hreset hanswer).2 hpresent] at hgone
  cases hgone

/-- A report explains what it leaves, whatever memory it finds. -/
theorem Engine.Effect.tracks_reported {provisioned : Bool} {outcome : Except HandlingError Unit}
    (heffect : Effect config before (.provisioningChanged provisioned) calls
      (outcome.mapError .failed) after)
    (hlife : KeyLife stored calls final) : after.Tracks final := by
  have hreset : calls.countP Call.isReset = 0 := heffect.countP_isReset (by simp)
  generalize hresult : outcome.mapError Stop.failed = result at heffect
  cases heffect with
  | queryFailed reason => exact absurd (by simp) (hlife.answered reason)
  | mismatch stopped hroom =>
    exact Memory.tracks_of_answer hlife hreset (by simp [Reset.scheduled, Provisioning.learnt])
      fun _ ↦ .inl rfl
  | tooLate stopped hlate => cases outcome <;> cases hresult
  | afterReset hdone =>
    exact Memory.tracks_of_answer hlife hreset (by simp [Provisioning.learnt])
      fun hdiffer ↦ absurd rfl hdiffer
  | advertised hdone =>
    exact Memory.tracks_of_answer hlife hreset (by simp [Provisioning.learnt])
      fun hdiffer ↦ absurd rfl hdiffer
  | notAdvertised reason hdone =>
    exact Memory.tracks_of_answer hlife hreset (by simp [Provisioning.learnt])
      fun hdiffer ↦ absurd rfl hdiffer

/-- A key written while none is remembered leaves a reset pending. While one is remembered the
question only finds out that the key is gone, which is then explained by the reset that took it. -/
theorem Engine.Effect.tracks_keyWritten {outcome : Except HandlingError Unit}
    (heffect : Effect config before .accountKeyWritten calls (outcome.mapError .failed) after)
    (hlife : KeyLife stored calls final) (htracks : before.Tracks stored) : after.Tracks final := by
  have hreset : calls.countP Call.isReset = 0 := heffect.countP_isReset (by simp)
  generalize hresult : outcome.mapError Stop.failed = result at heffect
  cases heffect with
  | notAdvertised reason => exact htracks.kept hlife hreset rfl
  | first keyPresent hkey hroom =>
    exact Memory.tracks_of_answer hlife hreset (by simp [Provisioning.learnt]) fun _ ↦ .inl rfl
  | firstNotQueried reason hkey hroom => exact absurd (by simp) (hlife.answered reason)
  | tooLate hkey hlate => cases outcome <;> cases hresult
  | later keyPresent hkey =>
    refine Memory.tracks_of_answer hlife hreset (by simp [Provisioning.learnt]) fun hdiffer ↦ ?_
    cases keyPresent with
    | true => exact htracks.explained (by rw [hkey]; exact hdiffer)
    | false =>
      have hmust : stored = true → false = true := (hlife.between hreset (by simp)).1
      have hgone : stored = false := by simpa using hmust
      exact .inr (htracks.outdated hkey hgone)
  | laterNotQueried reason hkey => exact absurd (by simp) (hlife.answered reason)

theorem Engine.ResetExpired.tracks (hexpired : ResetExpired before calls result after)
    (hlife : KeyLife stored calls final) (htracks : before.Tracks stored) : after.Tracks final := by
  obtain ⟨hexpired⟩ := hexpired
  cases hexpired with
  | idle hpending => exact htracks.kept hlife (by simp) rfl
  | done hpending => exact ⟨fun _ ↦ .inr rfl, fun _ _ ↦ rfl⟩
  | @failed cause reason hpending => exact absurd (by simp) (hlife.resets_succeed reason)

theorem TimedMode.Left.tracks {mode : Mode} (hleft : Left mode before calls result after)
    (hlife : KeyLife stored calls final) (htracks : before.Tracks stored) : after.Tracks final := by
  have hreset : calls.countP Call.isReset = 0 := hleft.countP_isReset
  cases hleft with
  | inactive hinactive => exact htracks.kept hlife hreset rfl
  | left stopped hactive => exact htracks.kept hlife hreset (by simp [Memory.knowledge])

/-- Every event leaves the memory on the track of the stored key. -/
theorem Engine.Effect.tracks {event : Event} {outcome : Except HandlingError Unit}
    (heffect : Effect config before event calls (outcome.mapError .failed) after)
    (hlife : KeyLife stored calls final) (htracks : before.Tracks stored) : after.Tracks final := by
  cases event with
  | provisioningChanged provisioned => exact heffect.tracks_reported hlife
  | accountKeyWritten => exact heffect.tracks_keyWritten hlife htracks
  | readModeExited mode =>
    exact TimedMode.Left.tracks heffect hlife ⟨htracks.explained, htracks.outdated⟩
  | clockSynced =>
    have hreset : calls.countP Call.isReset = 0 := heffect.countP_isReset (by simp)
    obtain rfl := Provisioning.ClockSynced.unchanged heffect
    exact htracks.kept hlife hreset rfl
  | commandReceived command =>
    have hreset : calls.countP Call.isReset = 0 := heffect.countP_isReset (by simp)
    generalize outcome.mapError Stop.failed = result at heffect
    cases heffect <;> exact htracks.kept hlife hreset rfl
  | requested request =>
    have hreset : calls.countP Call.isReset = 0 := heffect.countP_isReset (by simp)
    generalize outcome.mapError Stop.failed = result at heffect
    cases heffect with
    | entered hallowed hroom =>
      exact htracks.kept hlife hreset (by simp [Memory.knowledge])
    | _ => exact htracks.kept hlife hreset rfl
  | timerExpired timer =>
    cases hmode : Mode.ofTimer timer with
    | some mode =>
      simp only [Effect, hmode] at heffect
      exact heffect.tracks hlife htracks
    | none =>
      simp only [Effect, hmode] at heffect
      exact heffect.tracks hlife htracks

/-- Events handled in order leave the memory on the track of the stored key, and each of them finds
a memory whose difference is explained. -/
theorem Engine.Deliveries.tracks {events : List Event} {handlings : List Handling}
    (hdeliveries : Deliveries config before events handlings calls after)
    (hlife : KeyLife stored calls final) (htracks : before.Tracks stored) :
    after.Tracks final ∧ ∀ handling ∈ handlings, handling.memory.Explained := by
  induction hdeliveries generalizing stored with
  | nil => exact ⟨htracks.kept hlife rfl rfl, by simp⟩
  | cons heffect hrest ih =>
    obtain ⟨middle, hfirst, hlater⟩ := hlife.append_inv
    obtain ⟨hafter, hfound⟩ := ih hlater (heffect.tracks hfirst htracks)
    exact ⟨hafter, List.forall_mem_cons.mpr ⟨htracks.explained, hfound⟩⟩

end Effects

namespace Engine

variable {σ : Type}

theorem Moved.tracks {config : Config} {before after : Memory} {move : Move σ}
    {handlings : List Handling} {calls : List Call} {stored final : Bool}
    (hmoved : Moved config before move handlings calls after) (hlife : KeyLife stored calls final)
    (htracks : before.Tracks stored) :
    after.Tracks final ∧ ∀ handling ∈ handlings, handling.memory.Explained := by
  cases hmoved with
  | event heffect => exact ⟨heffect.tracks hlife htracks, by simpa using htracks.explained⟩
  | advance hdeliveries =>
    exact hdeliveries.tracks hlife ⟨htracks.explained, htracks.outdated⟩
  | outside => exact ⟨htracks.kept hlife rfl rfl, by simp⟩

/-- The memories that can be seen during a run: that of each tag, and that which each event
found. -/
def memories (run : Run (Tag σ) (Move σ)) : List Memory :=
  run.states.map (·.toMemory) ++ (Trace.handlings run.trace).map (·.memory)

theorem forall_mem_memories_append {property : Memory → Prop} {run : Run (Tag σ) (Move σ)}
    {move : Move σ} {trace : List Entry} {after : Tag σ} :
    (∀ memory ∈ memories (run.append move trace after), property memory) ↔
      (∀ memory ∈ memories run, property memory) ∧ property after.toMemory ∧
        ∀ handling ∈ Trace.handlings trace, property handling.memory := by
  simp only [memories, Run.states_append, Run.trace_append, Trace.handlings_append, List.map_append,
    List.forall_mem_append, List.forall_mem_map, List.forall_mem_singleton]
  tauto

/-- If every question about the keys is answered and only a reset takes a key away, the remembered
answer never differs from the reported state unless a reset is pending or the report that follows
one is awaited. The key may arrive at any moment, and nothing is assumed of the other directions or
of the events. -/
theorem inconsistency_awaits_reset [Device σ] (config : Config) (start : Instant) (device : σ)
    (moves : List (Move σ)) (run : Run (Tag σ) (Move σ))
    (hfollow : Run.follow (perform config) (.powerOn start device) moves = .ok run) (stored : Bool)
    (hlife : KeyLife false (Trace.calls run.trace) stored) :
    ∀ memory ∈ memories run, memory.ledger.keyPresent ≠ memory.ledger.provisioned →
      memory.ledger.pending.isSome = true ∨ memory.ledger.resetDone = true := by
  have htracked : run.state.Tracks stored ∧ ∀ memory ∈ memories run, memory.Explained := by
    refine Run.follow_induction hfollow (motive := fun run ↦ ∀ stored,
      KeyLife false (Trace.calls run.trace) stored →
        run.state.Tracks stored ∧ ∀ memory ∈ memories run, memory.Explained) ?_ ?_ stored hlife
    · intro stored _
      have hpowerOn : (Tag.powerOn start device).Tracks stored :=
        ⟨fun hdiffer ↦ absurd rfl hdiffer, fun hpresent ↦ by cases hpresent⟩
      exact ⟨hpowerOn, by simpa [memories, Run.states, Run.trace] using hpowerOn.explained⟩
    · intro earlier move trace after hearlier hmove hrun stored hlife
      rw [Run.trace_append, Trace.calls_append] at hlife
      obtain ⟨middle, hbefore, hstep⟩ := hlife.append_inv
      obtain ⟨htracks, hmemories⟩ := hearlier middle hbefore
      obtain ⟨hafter, hfound⟩ := (perform_eq_ok hrun).tracks hstep htracks
      refine ⟨hafter, ?_⟩
      rw [forall_mem_memories_append]
      exact ⟨hmemories, hafter.explained, hfound⟩
  exact htracked.2

/-- A key arrives, provisioning completes and is taken back, and the tag is reset for the mismatch.
The key is gone but still remembered, and nothing is pending: only the awaited report explains the
difference. A forged expiry of the reset timer changes nothing. -/
theorem erased_key_awaits_report :
    ∃ run, Run.follow (perform {}) (.powerOn 0 ({} : Bench))
        [.outside fun bench ↦ { bench with key := true }, .event .accountKeyWritten,
          .event (.provisioningChanged true), .event (.provisioningChanged false),
          .advance 3000000, .event (.timerExpired .factoryReset)] = .ok run ∧
      KeyLife false (Trace.calls run.trace) false ∧
      run.state.ledger.keyPresent = true ∧ run.state.ledger.provisioned = false ∧
      run.state.ledger.pending = none ∧
      ∀ memory ∈ memories run, memory.ledger.keyPresent ≠ memory.ledger.provisioned →
        memory.ledger.pending.isSome = true ∨ memory.ledger.resetDone = true := by
  obtain ⟨run, hrun, hcalls, hstate⟩ : ∃ run, Run.follow (perform {}) (.powerOn 0 ({} : Bench))
        [.outside fun bench ↦ { bench with key := true }, .event .accountKeyWritten,
          .event (.provisioningChanged true), .event (.provisioningChanged false),
          .advance 3000000, .event (.timerExpired .factoryReset)] = .ok run ∧
      Trace.calls run.trace =
        [.advertise .notDiscoverable (.ok ()), .suspendRotation true, .holdsKey (.ok true),
          .indicate .provisioned true, .suspendRotation false, .holdsKey (.ok true),
          .advertise .notDiscoverable (.ok ()), .indicate .provisioned false, .holdsKey (.ok true),
          .advertise .off (.ok ()), .factoryReset (.ok ())] ∧
      run.state.ledger.keyPresent = true ∧ run.state.ledger.provisioned = false ∧
      run.state.ledger.pending = none := ⟨_, rfl, rfl, rfl, rfl, rfl⟩
  have hlife : KeyLife false (Trace.calls run.trace) false := by
    rw [hcalls]
    exact .cons id (.other rfl) <| .cons id (.other rfl) <| .cons (fun _ ↦ rfl) .asked <|
      .cons id (.other rfl) <| .cons id (.other rfl) <| .cons id .asked <|
      .cons id (.other rfl) <| .cons id (.other rfl) <| .cons id .asked <|
      .cons id (.other rfl) <| .cons id .erased <| .nil id
  obtain ⟨hpresent, hprovisioned, hpending⟩ := hstate
  exact ⟨run, hrun, hlife, hpresent, hprovisioned, hpending,
    inconsistency_awaits_reset {} 0 _ _ run hrun false hlife⟩

end Engine

end TagControl
