import TagControl.Proofs.Mismatch
/-!
What the reports of the provisioning state direct over a whole boot. Two flags of the ledger decide
it, and each is a summary of the steps before: a reset is done and its report still awaited exactly
if one has succeeded since the last report that the keys agreed with (`Engine.ErasedSince`), and the
first callback is over exactly if such a report has chosen what to advertise (`Engine.chooses`). So
a report that the keys contradict ends the advertisement, the one that a reset has announced leaves
it alone, and every other one that they agree with directs one mode, which is the pairing
advertisement of a provisioned tag at most once.
-/

set_option autoImplicit false

namespace TagControl

namespace Call

/-- The mode that a call directs the advertisement to, whether or not it succeeds. -/
def directive? : Call → Option AdvertisingMode
  | advertise mode _ => some mode
  | _ => none

/-- The modes that calls direct the advertisement to, in order. -/
def directives (calls : List Call) : List AdvertisingMode :=
  calls.filterMap directive?

@[simp] theorem directives_nil : directives [] = [] := rfl

@[simp] theorem directives_cons (call : Call) (calls : List Call) :
    directives (call :: calls) = call.directive?.toList ++ directives calls := by
  unfold directives
  cases hcall : call.directive? <;> simp [hcall]

@[simp] theorem directives_append (first second : List Call) :
    directives (first ++ second) = directives first ++ directives second :=
  List.filterMap_append

/-- Whether the advertisement was set to a mode. -/
def selects (mode : AdvertisingMode) : Call → Bool
  | advertise chosen (.ok ()) => chosen = mode
  | _ => false

/-- Whether the tag was reset. -/
def erases : Call → Bool
  | factoryReset (.ok ()) => true
  | _ => false

theorem directive_mem_of_selects {mode : AdvertisingMode} {calls : List Call}
    (hselects : calls.any (selects mode) = true) :
    mode ∈ directives calls ∧ calls.any isAdvertised = true := by
  obtain ⟨call, hmem, hcall⟩ := List.any_eq_true.mp hselects
  unfold selects at hcall
  split at hcall
  · next chosen =>
    obtain rfl : chosen = mode := by simpa using hcall
    exact ⟨List.mem_filterMap.mpr ⟨_, hmem, rfl⟩, List.any_eq_true.mpr ⟨_, hmem, rfl⟩⟩
  · cases hcall

theorem isReset_of_erases {call : Call} (herases : call.erases = true) : call.isReset = true := by
  cases call with
  | factoryReset answer => rfl
  | _ => cases herases

theorem any_erases_eq_false {calls : List Call} (hreset : calls.countP isReset = 0) :
    calls.any erases = false := by
  rw [List.countP_eq_zero] at hreset
  rw [List.any_eq_false]
  exact fun call hcall herases ↦ hreset call hcall (isReset_of_erases herases)

end Call

/-- Whether the report that follows a reset is awaited, and whether no report has chosen what to
advertise yet. -/
def Ledger.flags (ledger : Ledger) : Bool × Bool :=
  (ledger.resetDone, ledger.firstCallback)

/-- Whether the keys agree with the reported state, if the question about them was answered. -/
def Provisioning.verdict (provisioned : Bool) (calls : List Call) : Option Bool :=
  if calls.any (Call.answersKey !provisioned) then some false
  else if calls.any (Call.answersKey provisioned) then some true
  else none

/-! ### One step -/

section Effects

variable {config : Config} {before after : Memory} {calls : List Call}
  {result : Except (Stop HandlingError) Unit}

theorem TimedMode.Left.flags {mode : Mode} (hleft : Left mode before calls result after) :
    after.ledger.flags = before.ledger.flags := by
  cases hleft <;> simp [Ledger.flags]

theorem TimedMode.Entered.flags {mode : Mode}
    (hentered : Entered config mode before calls result after) :
    after.ledger.flags = before.ledger.flags := by
  cases hentered <;> simp [Ledger.flags]

theorem Engine.ResetExpired.flags (hexpired : ResetExpired before calls result after) :
    after.ledger.flags =
      (calls.any Call.erases || before.ledger.resetDone, before.ledger.firstCallback) := by
  obtain ⟨hexpired⟩ := hexpired
  have hresumption : ∀ cause, (Provisioning.resumption cause).any Call.erases = false :=
    fun cause ↦ Call.any_erases_eq_false (Provisioning.countP_isReset_resumption cause)
  cases hexpired with
  | idle hpending => simp [Ledger.flags, hresumption]
  | done hpending => simp [Ledger.flags, Call.erases]
  | failed hpending => simp [Ledger.flags, Call.erases, hresumption]

/-- Besides the reports, only a reset that succeeds touches the flags. -/
theorem Engine.Effect.flags_other {event : Event}
    (heffect : Effect config before event calls result after)
    (hreport : ∀ provisioned, event ≠ .provisioningChanged provisioned) :
    after.ledger.flags =
      (calls.any Call.erases || before.ledger.resetDone, before.ledger.firstCallback) := by
  by_cases hexpiry : event = .timerExpired .factoryReset
  · subst hexpiry
    exact ResetExpired.flags heffect
  · rw [Call.any_erases_eq_false (heffect.countP_isReset hexpiry), Bool.false_or]
    cases event with
    | provisioningChanged provisioned => exact absurd rfl (hreport provisioned)
    | accountKeyWritten => cases heffect <;> rfl
    | readModeExited mode =>
      have hleft := TimedMode.Left.flags heffect
      exact hleft
    | clockSynced => rw [Provisioning.ClockSynced.unchanged heffect]; rfl
    | commandReceived command => cases heffect <;> rfl
    | requested request => exact TimedMode.Entered.flags heffect
    | timerExpired timer =>
      cases timer with
      | factoryReset => exact absurd rfl hexpiry
      | dfu => exact TimedMode.Left.flags heffect
      | recovery => exact TimedMode.Left.flags heffect
      | identification => exact TimedMode.Left.flags heffect

theorem Engine.Deliveries.flags_expired {expired : List Timer} {handlings : List Handling}
    (hdeliveries :
      Deliveries config before (expired.map .timerExpired) handlings calls after) :
    after.ledger.flags =
      (calls.any Call.erases || before.ledger.resetDone, before.ledger.firstCallback) := by
  induction expired generalizing before handlings calls with
  | nil =>
    cases hdeliveries
    rfl
  | cons timer rest ih =>
    cases hdeliveries with
    | cons heffect hrest =>
      obtain ⟨hdone, hfirst⟩ := Prod.mk.injEq .. |>.mp (heffect.flags_other (by simp))
      rw [ih hrest, hdone, hfirst, List.any_append, Bool.or_left_comm, Bool.or_assoc]

/-- A report clears the one flag if it is the report awaited, and the other if it chooses. -/
theorem Provisioning.Reported.flags {provisioned : Bool} {outcome : Except HandlingError Unit}
    (hreported :
      Reported config provisioned before calls (outcome.mapError .failed) after) :
    after.ledger.flags =
      (before.ledger.resetDone && verdict provisioned calls ≠ some true,
        before.ledger.firstCallback &&
          !(verdict provisioned calls = some true && calls.any Call.isAdvertised)) := by
  have hnoting : (noting before provisioned).any Call.isAdvertised = false := by
    unfold noting
    split <;> rfl
  generalize hresult : outcome.mapError Stop.failed = result at hreported
  cases hreported with
  | queryFailed reason => simp [Ledger.flags, verdict, Call.answersKey]
  | mismatch stopped hroom => simp [Ledger.flags, verdict, Call.answersKey, Reset.scheduled]
  | tooLate stopped hlate => cases outcome <;> cases hresult
  | afterReset hdone => simp [Ledger.flags, verdict, Call.answersKey, Call.isAdvertised, hnoting]
  | advertised hdone => simp [Ledger.flags, verdict, Call.answersKey, Call.isAdvertised, hdone]
  | notAdvertised reason hdone =>
    simp [Ledger.flags, verdict, Call.answersKey, Call.isAdvertised, hdone, hnoting]

/-- What a report directs, by its verdict. -/
theorem Provisioning.Reported.directives {provisioned : Bool}
    (hreported : Reported config provisioned before calls result after) :
    Call.directives calls =
      match verdict provisioned calls with
      | none => []
      | some false => [.off]
      | some true =>
        if before.ledger.resetDone then []
        else [advertisingFor provisioned before.ledger.firstCallback] := by
  have hnoting : Call.directives (noting before provisioned) = [] := by
    unfold noting
    split <;> rfl
  have hresumption : ∀ cause, Call.directives (resumption cause) = [] := by
    intro cause
    unfold resumption
    split <;> rfl
  cases hreported with
  | queryFailed reason => simp [verdict, Call.answersKey, Call.directive?, hnoting]
  | mismatch stopped hroom =>
    simp [verdict, Call.answersKey, Call.directive?, hnoting, hresumption]
  | tooLate stopped hlate =>
    simp [verdict, Call.answersKey, Call.directive?, hnoting, hresumption]
  | afterReset hdone => simp [verdict, Call.answersKey, Call.directive?, hnoting, hdone]
  | advertised hdone => simp [verdict, Call.answersKey, Call.directive?, hnoting, hdone]
  | notAdvertised reason hdone =>
    simp [verdict, Call.answersKey, Call.directive?, hnoting, hdone]

end Effects

namespace Engine

variable {σ : Type}

/-- Whether a reset succeeds in a step. -/
def erases (step : Step (Tag σ) (Move σ)) : Bool :=
  (Trace.calls step.trace).any Call.erases

/-- Whether a step is a report that the keys agree with and that has set the advertisement. -/
def chooses (step : Step (Tag σ) (Move σ)) : Bool :=
  verdict? step = some true && (Trace.calls step.trace).any Call.isAdvertised

/-- A reset has succeeded and no report that the keys agree with has come since. -/
def ErasedSince (steps : List (Step (Tag σ) (Move σ))) : Prop :=
  ∃ before reset since, steps = before ++ reset :: since ∧ erases reset = true ∧
    ∀ step ∈ since, verdict? step ≠ some true

theorem erasedSince_append_singleton {steps : List (Step (Tag σ) (Move σ))}
    {last : Step (Tag σ) (Move σ)} :
    ErasedSince (steps ++ [last]) ↔
      erases last = true ∨ (ErasedSince steps ∧ verdict? last ≠ some true) := by
  constructor
  · rintro ⟨before, reset, since, hsteps, herases, hsince⟩
    rcases List.eq_nil_or_concat since with rfl | ⟨shorter, final, rfl⟩
    · obtain ⟨-, hlast⟩ := List.append_inj' hsteps rfl
      cases hlast
      exact .inl herases
    · have hsplit : steps ++ [last] = (before ++ reset :: shorter) ++ [final] := by
        simpa using hsteps
      obtain ⟨rfl, hlast⟩ := List.append_inj' hsplit rfl
      cases hlast
      rw [List.concat_eq_append, List.forall_mem_append, List.forall_mem_singleton] at hsince
      exact .inr ⟨⟨before, reset, shorter, rfl, herases, hsince.1⟩, hsince.2⟩
  · rintro (herases | ⟨⟨before, reset, since, rfl, herases, hsince⟩, hlast⟩)
    · exact ⟨steps, last, [], rfl, herases, by simp⟩
    · refine ⟨before, reset, since ++ [last], by simp, herases, ?_⟩
      rw [List.forall_mem_append, List.forall_mem_singleton]
      exact ⟨hsince, hlast⟩

/-- A step changes the flags by the resets that succeed in it and by its verdict. -/
theorem Moved.flags {config : Config} {before after : Tag σ} {move : Move σ} {trace : List Entry}
    (hmoved : Moved config before.toMemory move (Trace.handlings trace) (Trace.calls trace)
      after.toMemory) :
    (after.ledger.resetDone = true ↔ erases ⟨before, move, trace, after⟩ = true ∨
      (before.ledger.resetDone = true ∧ verdict? ⟨before, move, trace, after⟩ ≠ some true)) ∧
    after.ledger.firstCallback =
      (before.ledger.firstCallback && !chooses ⟨before, move, trace, after⟩) := by
  unfold erases chooses verdict?
  generalize Trace.handlings trace = handlings at hmoved
  generalize Trace.calls trace = calls at hmoved ⊢
  generalize after.toMemory = final at hmoved ⊢
  cases hmoved with
  | outside => simp
  | advance hdeliveries =>
    obtain ⟨hdone, hfirst⟩ := Prod.mk.injEq .. |>.mp hdeliveries.flags_expired
    simp [hdone, hfirst]
  | event heffect =>
    rename_i event outcome
    by_cases hreport : ∃ provisioned, event = .provisioningChanged provisioned
    · obtain ⟨provisioned, rfl⟩ := hreport
      have hreset := Call.any_erases_eq_false (heffect.countP_isReset (by simp))
      obtain ⟨hdone, hfirst⟩ := Prod.mk.injEq .. |>.mp (Provisioning.Reported.flags heffect)
      change (_ ↔ _ ∨ (_ ∧ Provisioning.verdict provisioned calls ≠ some true)) ∧
        _ = (_ && !(Provisioning.verdict provisioned calls = some true && _))
      simp [hdone, hfirst, hreset]
    · obtain ⟨hdone, hfirst⟩ := Prod.mk.injEq .. |>.mp
        (heffect.flags_other fun provisioned hevent ↦ hreport ⟨provisioned, hevent⟩)
      cases event with
      | provisioningChanged provisioned => exact absurd ⟨provisioned, rfl⟩ hreport
      | _ => simp [hdone, hfirst]

/-- What a report directs, by its verdict and the flags that it finds. -/
theorem Moved.directives {config : Config} {before after : Tag σ} {provisioned : Bool}
    {trace : List Entry}
    (hmoved : Moved config before.toMemory (.event (.provisioningChanged provisioned) : Move σ)
      (Trace.handlings trace) (Trace.calls trace) after.toMemory) :
    Call.directives (Trace.calls trace) =
      match verdict? ⟨before, .event (.provisioningChanged provisioned), trace, after⟩ with
      | none => []
      | some false => [.off]
      | some true =>
        if before.ledger.resetDone then []
        else [Provisioning.advertisingFor provisioned before.ledger.firstCallback] := by
  obtain ⟨outcome, heffect⟩ := hmoved.effect
  exact Provisioning.Reported.directives heffect

/-! ### Whole runs -/

/-- Whether a step is a report that sets the advertisement to not discoverable. -/
def hides (step : Step (Tag σ) (Move σ)) : Bool :=
  match step.move with
  | .event (.provisioningChanged _) => (Trace.calls step.trace).any (Call.selects .notDiscoverable)
  | _ => false

/-- Whether a step is a report that the keys agree with and that leaves the advertisement alone. -/
def spares (step : Step (Tag σ) (Move σ)) : Bool :=
  verdict? step = some true && Call.directives (Trace.calls step.trace) = []

theorem eq_report_of_verdict {step : Step (Tag σ) (Move σ)} {verdict : Bool}
    (hverdict : verdict? step = some verdict) :
    ∃ provisioned, step.move = .event (.provisioningChanged provisioned) := by
  unfold verdict? at hverdict
  split at hverdict
  · next provisioned hmove => exact ⟨provisioned, hmove⟩
  · cases hverdict

/-- A report hides the tag only if it is the first callback, and ends that. -/
theorem Moved.firstCallback_of_hides {config : Config} {before after : Tag σ} {move : Move σ}
    {trace : List Entry}
    (hmoved : Moved config before.toMemory move (Trace.handlings trace) (Trace.calls trace)
      after.toMemory)
    (hhides : hides ⟨before, move, trace, after⟩ = true) :
    before.ledger.firstCallback = true ∧ after.ledger.firstCallback = false := by
  have hfirst := hmoved.flags.2
  unfold hides at hhides
  split at hhides
  · next provisioned hmove =>
    obtain rfl : move = .event (.provisioningChanged provisioned) := hmove
    obtain ⟨hdirected, hadvertised⟩ := Call.directive_mem_of_selects hhides
    rw [hmoved.directives] at hdirected
    split at hdirected
    · cases hdirected
    · simp at hdirected
    · next hverdict =>
      split at hdirected
      · cases hdirected
      · have hchosen : Provisioning.advertisingFor provisioned before.ledger.firstCallback =
            .notDiscoverable := (List.mem_singleton.mp hdirected).symm
        have hbefore : before.ledger.firstCallback = true := by
          cases hcallback : before.ledger.firstCallback with
          | true => rfl
          | false => cases provisioned <;> simp [Provisioning.advertisingFor, hcallback] at hchosen
        refine ⟨hbefore, ?_⟩
        rw [hfirst]
        simp [chooses, hverdict, hadvertised]
  · cases hhides

/-- A report spares the advertisement only if it is the one awaited, and ends the wait. -/
theorem Moved.resetDone_of_spares {config : Config} {before after : Tag σ} {move : Move σ}
    {trace : List Entry}
    (hmoved : Moved config before.toMemory move (Trace.handlings trace) (Trace.calls trace)
      after.toMemory)
    (hspares : spares ⟨before, move, trace, after⟩ = true) :
    before.ledger.resetDone = true ∧ after.ledger.resetDone = false := by
  simp only [spares, Bool.and_eq_true, decide_eq_true_eq] at hspares
  obtain ⟨hverdict, hdirectives⟩ := hspares
  obtain ⟨provisioned, hmove⟩ := eq_report_of_verdict hverdict
  obtain rfl : move = .event (.provisioningChanged provisioned) := hmove
  have hbefore : before.ledger.resetDone = true := by
    rw [hmoved.directives, hverdict] at hdirectives
    by_contra hdone
    simp [hdone] at hdirectives
  refine ⟨hbefore, ?_⟩
  obtain ⟨outcome, heffect⟩ := hmoved.effect
  have hreset := Call.any_erases_eq_false (heffect.countP_isReset (by simp))
  rw [← Bool.not_eq_true, hmoved.flags.1]
  simp [erases, hreset, hverdict]

/-- A report that hides the tag spends the first callback, and nothing gives it back. -/
theorem Moved.hides_le {config : Config} {before after : Tag σ} {move : Move σ}
    {trace : List Entry}
    (hmoved : Moved config before.toMemory move (Trace.handlings trace) (Trace.calls trace)
      after.toMemory) :
    (if hides ⟨before, move, trace, after⟩ then 1 else 0) +
        (if after.ledger.firstCallback then 1 else 0) ≤
      if before.ledger.firstCallback then 1 else 0 := by
  by_cases hhides : hides ⟨before, move, trace, after⟩ = true
  · obtain ⟨hbefore, hafter⟩ := hmoved.firstCallback_of_hides hhides
    simp [hhides, hbefore, hafter]
  · rw [if_neg hhides, Nat.zero_add, hmoved.flags.2]
    cases before.ledger.firstCallback <;> cases chooses ⟨before, move, trace, after⟩ <;> simp

/-- A report that spares the advertisement spends a reset, and only a reset gives it back. -/
theorem Moved.spares_le {config : Config} {before after : Tag σ} {move : Move σ}
    {trace : List Entry}
    (hmoved : Moved config before.toMemory move (Trace.handlings trace) (Trace.calls trace)
      after.toMemory) :
    (if spares ⟨before, move, trace, after⟩ then 1 else 0) +
        (if after.ledger.resetDone then 1 else 0) ≤
      (if before.ledger.resetDone then 1 else 0) + (Trace.calls trace).countP Call.erases := by
  by_cases hspares : spares ⟨before, move, trace, after⟩ = true
  · obtain ⟨hbefore, hafter⟩ := hmoved.resetDone_of_spares hspares
    simp [hspares, hbefore, hafter]
  · rw [if_neg hspares, Nat.zero_add]
    split
    · next hafter =>
      rcases hmoved.flags.1.mp hafter with herases | ⟨hbefore, -⟩
      · have hreset : 0 < (Trace.calls trace).countP Call.erases :=
          List.countP_pos_iff.mpr (List.any_eq_true.mp herases)
        exact Nat.le_add_left_of_le hreset
      · simp [hbefore]
    · exact Nat.zero_le _

/-- The ledger's flags sum up the steps of a run, and bound what is still to come. -/
structure SumsUp (steps : List (Step (Tag σ) (Move σ))) (calls : List Call) (ledger : Ledger) :
    Prop where
  awaited : ledger.resetDone = true ↔ ErasedSince steps
  first : ledger.firstCallback = !steps.any chooses
  hidden : steps.countP hides + (if ledger.firstCallback then 1 else 0) ≤ 1
  spared : steps.countP spares + (if ledger.resetDone then 1 else 0) ≤ calls.countP Call.erases

theorem sumsUp_powerOn : SumsUp ([] : List (Step (Tag σ) (Move σ))) [] {} where
  awaited := by simp [ErasedSince]
  first := rfl
  hidden := Nat.le_refl _
  spared := Nat.le_refl _

theorem SumsUp.append {config : Config} {steps : List (Step (Tag σ) (Move σ))} {calls : List Call}
    {before after : Tag σ} {move : Move σ} {trace : List Entry}
    (hsums : SumsUp steps calls before.ledger)
    (hmoved : Moved config before.toMemory move (Trace.handlings trace) (Trace.calls trace)
      after.toMemory) :
    SumsUp (steps ++ [⟨before, move, trace, after⟩]) (calls ++ Trace.calls trace)
      after.ledger where
  awaited := by rw [hmoved.flags.1, erasedSince_append_singleton, hsums.awaited]
  first := by
    rw [hmoved.flags.2, hsums.first, List.any_append, Bool.not_or, List.any_cons, List.any_nil,
      Bool.or_false]
  hidden := by
    have hbefore := hsums.hidden
    have hstep := hmoved.hides_le
    rw [List.countP_append, List.countP_singleton]
    omega
  spared := by
    have hbefore := hsums.spared
    have hstep := hmoved.spares_le
    rw [List.countP_append, List.countP_append, List.countP_singleton]
    omega

/-- What a report directs, read off the steps before it. -/
structure Policy (earlier : List (Step (Tag σ) (Move σ))) (provisioned : Bool)
    (report : Step (Tag σ) (Move σ)) : Prop where
  unanswered : verdict? report = none → Call.directives (Trace.calls report.trace) = []
  contradicted : verdict? report = some false → Call.directives (Trace.calls report.trace) = [.off]
  announced : verdict? report = some true → ErasedSince earlier →
    Call.directives (Trace.calls report.trace) = []
  chosen : verdict? report = some true → ¬ErasedSince earlier →
    Call.directives (Trace.calls report.trace) =
      [if provisioned then if earlier.any chooses then .off else .notDiscoverable
        else .discoverable]

theorem SumsUp.policy {config : Config} {earlier : List (Step (Tag σ) (Move σ))}
    {calls : List Call} {before after : Tag σ} {provisioned : Bool} {trace : List Entry}
    (hsums : SumsUp earlier calls before.ledger)
    (hmoved : Moved config before.toMemory (.event (.provisioningChanged provisioned) : Move σ)
      (Trace.handlings trace) (Trace.calls trace) after.toMemory) :
    Policy earlier provisioned ⟨before, .event (.provisioningChanged provisioned), trace, after⟩ := by
  have hdirectives := hmoved.directives
  constructor
  · intro hverdict
    rw [hdirectives, hverdict]
  · intro hverdict
    rw [hdirectives, hverdict]
  · intro hverdict herased
    rw [hdirectives, hverdict]
    simp [hsums.awaited.mpr herased]
  · intro hverdict herased
    have hdone : ¬before.ledger.resetDone = true := fun hdone ↦ herased (hsums.awaited.mp hdone)
    rw [hdirectives, hverdict]
    simp only [hdone, hsums.first]
    cases provisioned <;> cases earlier.any chooses <;> rfl

theorem sumsUp_of_follow [Device σ] {config : Config} {start : Instant} {device : σ}
    {moves : List (Move σ)} {run : Run (Tag σ) (Move σ)}
    (hfollow : Run.follow (perform config) (.powerOn start device) moves = .ok run) :
    SumsUp run.steps (Trace.calls run.trace) run.state.ledger := by
  refine Run.follow_induction hfollow
    (motive := fun run ↦ SumsUp run.steps (Trace.calls run.trace) run.state.ledger)
    sumsUp_powerOn ?_
  intro earlier move trace after hearlier hmove hrun
  rw [Run.steps_append, Run.trace_append, Trace.calls_append]
  exact hearlier.append (perform_eq_ok hrun)

/-- Over a boot, every report directs the advertisement as the reports and resets before it have it.
At most one report makes the tag not discoverable, and each reset that succeeds makes at most one
report leave the advertisement alone. -/
theorem reports_direct_by_history [Device σ] (config : Config) (start : Instant) (device : σ)
    (moves : List (Move σ)) (run : Run (Tag σ) (Move σ))
    (hfollow : Run.follow (perform config) (.powerOn start device) moves = .ok run) :
    (∀ earlier report later provisioned, run.steps = earlier ++ report :: later →
      report.move = .event (.provisioningChanged provisioned) →
      Policy earlier provisioned report) ∧
    run.steps.countP hides ≤ 1 ∧
    run.steps.countP spares ≤ (Trace.calls run.trace).countP Call.erases := by
  have hsums := sumsUp_of_follow hfollow
  refine ⟨?_, Nat.le_of_add_right_le hsums.hidden, Nat.le_of_add_right_le hsums.spared⟩
  rintro earlier ⟨before, move, trace, after⟩ later provisioned hsteps rfl
  obtain ⟨⟨shorter, -, hshorter⟩, -, hperform⟩ := Run.follow_before_step hfollow hsteps
  exact (sumsUp_of_follow hshorter).policy (perform_eq_ok hperform)

/-- A tag with a key is reported provisioned twice and then unprovisioned, which brings a reset. The
first report makes it not discoverable and the next two turn the advertisement off. The report that
the reset brings is spared, and the one after it makes the tag discoverable. -/
theorem discoverable_after_spared_report :
    ∃ run, Run.follow (perform {}) (.powerOn 0 ({ key := true } : Bench))
        [.event (.provisioningChanged true), .event (.provisioningChanged true),
          .event (.provisioningChanged false), .advance 3000000,
          .event (.provisioningChanged false), .event (.provisioningChanged false)] = .ok run ∧
      run.steps.map (Call.directives <| Trace.calls ·.trace) =
        [[.notDiscoverable], [.off], [.off], [], [], [.discoverable]] ∧
      (∀ earlier report later provisioned, run.steps = earlier ++ report :: later →
        report.move = .event (.provisioningChanged provisioned) →
        Policy earlier provisioned report) ∧
      run.steps.countP hides ≤ 1 ∧
      run.steps.countP spares ≤ (Trace.calls run.trace).countP Call.erases := by
  obtain ⟨run, hrun, hdirectives⟩ : ∃ run,
      Run.follow (perform {}) (.powerOn 0 ({ key := true } : Bench))
        [.event (.provisioningChanged true), .event (.provisioningChanged true),
          .event (.provisioningChanged false), .advance 3000000,
          .event (.provisioningChanged false), .event (.provisioningChanged false)] = .ok run ∧
      run.steps.map (Call.directives <| Trace.calls ·.trace) =
        [[.notDiscoverable], [.off], [.off], [], [], [.discoverable]] :=
    ⟨_, rfl, by decide +kernel⟩
  exact ⟨run, hrun, hdirectives, reports_direct_by_history {} 0 _ _ run hrun⟩

end Engine

end TagControl
