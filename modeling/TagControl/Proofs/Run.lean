import Mathlib.Data.List.Induction
import TagControl.Act
import TagControl.Tag
/-!
Runs: a state, the moves made from it one after the other, and for each step the state it found,
the state it left and its trace. A run is cut short by the first move whose computation ends early.
`Run.follow_induction` carries a property along a run and `Run.follow_invariant` one of its states,
`Run.follow_before_step` says where each step of a run begins, and `Run.follow_eq_error` finds the
move at which a run was cut short.
-/

set_option autoImplicit false

namespace TagControl

/-- Two computations joined succeed exactly when both do, the second in the state the first left. -/
theorem Act.run_bind_eq_ok {τ ε σ α β : Type} {act : Act τ ε σ β} {next : β → Act τ ε σ α}
    {state after : σ} {value : α} {trace : List τ} :
    (act >>= next).run state = ⟨.ok value, after, trace⟩ ↔
      ∃ first middle earlier later, act.run state = ⟨.ok first, middle, earlier⟩ ∧
        (next first).run middle = ⟨.ok value, after, later⟩ ∧ trace = earlier ++ later := by
  rw [run_bind]
  rcases hact : act.run state with ⟨reason | first, middle, earlier⟩
  · simp
  · rw [Outcome.andThen_ok]
    rcases hnext : (next first).run middle with ⟨result, final, later⟩
    constructor
    · rintro ⟨⟩
      exact ⟨first, middle, earlier, later, rfl, hnext, rfl⟩
    · rintro ⟨_, _, _, _, ⟨⟩, hlater, rfl⟩
      rw [hlater] at hnext
      cases hnext
      rfl

/-- Two computations joined end early when one of them does, the second only if it is reached. -/
theorem Act.run_bind_eq_error {τ ε σ α β : Type} {act : Act τ ε σ β} {next : β → Act τ ε σ α}
    {state after : σ} {reason : ε} {trace : List τ} :
    (act >>= next).run state = ⟨.error reason, after, trace⟩ ↔
      act.run state = ⟨.error reason, after, trace⟩ ∨
        ∃ first middle earlier later, act.run state = ⟨.ok first, middle, earlier⟩ ∧
          (next first).run middle = ⟨.error reason, after, later⟩ ∧ trace = earlier ++ later := by
  rw [run_bind]
  rcases hact : act.run state with ⟨early | first, middle, earlier⟩
  · simp
  · rw [Outcome.andThen_ok]
    rcases hnext : (next first).run middle with ⟨result, final, later⟩
    constructor
    · rintro ⟨⟩
      exact .inr ⟨first, middle, earlier, later, rfl, hnext, rfl⟩
    · rintro (⟨⟨⟩⟩ | ⟨_, _, _, _, ⟨⟩, hlater, rfl⟩)
      rw [hlater] at hnext
      cases hnext
      rfl

structure Step (σ μ : Type) where
  before : σ
  move : μ
  trace : List Entry
  after : σ

structure Run (σ μ : Type) where
  state : σ
  /-- The steps, in order. -/
  steps : List (Step σ μ) := []

namespace Run

variable {σ μ : Type}

def trace (run : Run σ μ) : List Entry :=
  run.steps.flatMap (·.trace)

/-- The states visited, in order, from the first to the present one. -/
def states (run : Run σ μ) : List σ :=
  run.steps.map (·.before) ++ [run.state]

def append (run : Run σ μ) (move : μ) (trace : List Entry) (after : σ) : Run σ μ where
  state := after
  steps := run.steps ++ [⟨run.state, move, trace, after⟩]

@[simp] theorem state_append (run : Run σ μ) (move : μ) (trace : List Entry) (after : σ) :
    (run.append move trace after).state = after := rfl

@[simp] theorem steps_append (run : Run σ μ) (move : μ) (trace : List Entry) (after : σ) :
    (run.append move trace after).steps = run.steps ++ [⟨run.state, move, trace, after⟩] := rfl

@[simp] theorem states_append (run : Run σ μ) (move : μ) (trace : List Entry) (after : σ) :
    (run.append move trace after).states = run.states ++ [after] := by
  simp [Run.states]

theorem state_mem_states (run : Run σ μ) : run.state ∈ run.states := by
  simp [Run.states]

@[simp] theorem trace_append (run : Run σ μ) (move : μ) (trace : List Entry) (after : σ) :
    (run.append move trace after).trace = run.trace ++ trace := by
  simp [Run.trace]

section Follow

variable (perform : μ → Act Entry ClockOverflow σ Unit)

def extend (run : Run σ μ) (move : μ) : Except ClockOverflow (Run σ μ) :=
  let out := (perform move).run run.state
  match out.result with
  | .ok () => .ok (run.append move out.trace out.state)
  | .error overflow => .error overflow

def follow (start : σ) (moves : List μ) : Except ClockOverflow (Run σ μ) :=
  moves.foldlM (extend perform) { state := start }

variable {perform}

theorem extend_eq_ok {run longer : Run σ μ} {move : μ} :
    extend perform run move = .ok longer ↔ ∃ trace after,
      (perform move).run run.state = ⟨.ok (), after, trace⟩ ∧
        longer = run.append move trace after := by
  unfold extend
  rcases hrun : (perform move).run run.state with ⟨overflow | _, after, trace⟩
  · simp
  · simp [eq_comm]

theorem extend_eq_error {run : Run σ μ} {move : μ} {overflow : ClockOverflow} :
    extend perform run move = .error overflow ↔
      ((perform move).run run.state).result = .error overflow := by
  unfold extend
  rcases hrun : (perform move).run run.state with ⟨early | _, after, trace⟩ <;> simp

/-- A property of runs that the empty run has and every step keeps. -/
theorem follow_induction {motive : Run σ μ → Prop} {start : σ} {moves : List μ} {run : Run σ μ}
    (hfollow : follow perform start moves = .ok run) (hstart : motive { state := start })
    (hstep : ∀ earlier move trace after, motive earlier → move ∈ moves →
      (perform move).run earlier.state = ⟨.ok (), after, trace⟩ →
      motive (earlier.append move trace after)) : motive run := by
  unfold follow at hfollow
  -- the induction takes moves from the front, so it speaks of any run to start with
  generalize ({ state := start } : Run σ μ) = earlier at hfollow hstart
  induction moves generalizing earlier with
  | nil =>
    cases hfollow
    exact hstart
  | cons move moves ih =>
    rw [List.foldlM_cons] at hfollow
    cases hextend : extend perform earlier move with
    | error overflow =>
      rw [hextend] at hfollow
      cases hfollow
    | ok longer =>
      rw [hextend] at hfollow
      obtain ⟨trace, after, hrun, rfl⟩ := extend_eq_ok.mp hextend
      refine ih (fun earlier next trace after hearlier hnext ↦ ?_) _ hfollow ?_
      · exact hstep earlier next trace after hearlier (List.mem_cons_of_mem _ hnext)
      · exact hstep earlier move trace after hstart List.mem_cons_self hrun

/-- A property of states that the first has and every move keeps holds of all that are visited. -/
theorem follow_invariant {invariant : σ → Prop} {start : σ} {moves : List μ} {run : Run σ μ}
    (hfollow : follow perform start moves = .ok run) (hstart : invariant start)
    (hstep : ∀ before move trace after, invariant before → move ∈ moves →
      (perform move).run before = ⟨.ok (), after, trace⟩ → invariant after) :
    ∀ state ∈ run.states, invariant state := by
  refine follow_induction hfollow (motive := fun run ↦ ∀ state ∈ run.states, invariant state) ?_ ?_
  · simpa [states] using hstart
  · intro earlier move trace after hearlier hmove hrun
    rw [states_append, List.forall_mem_append, List.forall_mem_singleton]
    have hbefore := hearlier _ earlier.state_mem_states
    exact ⟨hearlier, hstep _ move trace after hbefore hmove hrun⟩

/-- A run that is cut short completes all moves before the one that ends early. -/
theorem follow_eq_error {start : σ} {moves : List μ} {overflow : ClockOverflow}
    (hfollow : follow perform start moves = .error overflow) :
    ∃ earlier move later run, moves = earlier ++ move :: later ∧
      follow perform start earlier = .ok run ∧
      ((perform move).run run.state).result = .error overflow := by
  induction moves using List.reverseRecOn with
  | nil => cases hfollow
  | append_singleton moves last ih =>
    unfold follow at hfollow
    rw [List.foldlM_append] at hfollow
    cases hmoves : follow perform start moves with
    | error early =>
      unfold follow at hmoves
      rw [hmoves] at hfollow
      cases hfollow
      obtain ⟨earlier, move, later, run, rfl, hrun, hresult⟩ := ih hmoves
      exact ⟨earlier, move, later ++ [last], run, by simp, hrun, hresult⟩
    | ok run =>
      refine ⟨moves, last, [], run, rfl, hmoves, ?_⟩
      unfold follow at hmoves
      rw [hmoves] at hfollow
      change extend perform run last >>= pure = _ at hfollow
      rw [bind_pure] at hfollow
      exact extend_eq_error.mp hfollow

theorem follow_append_singleton {start : σ} {moves : List μ} {last : μ} {run : Run σ μ} :
    follow perform start (moves ++ [last]) = .ok run ↔ ∃ shorter,
      follow perform start moves = .ok shorter ∧ extend perform shorter last = .ok run := by
  have hsplit : follow perform start (moves ++ [last]) =
      follow perform start moves >>= fun shorter ↦ extend perform shorter last := by
    simp [follow, List.foldlM_append]
  rw [hsplit]
  cases hmoves : follow perform start moves with
  | error overflow => simp [bind, Except.bind]
  | ok shorter => simp [bind, Except.bind]

/-- Moves that never end early make a run, whose end is what they do one after the other. -/
theorem follow_map_total {ι : Type} {move : ι → μ} {effect : ι → σ → σ}
    (hstep : ∀ item state, ∃ trace,
      (perform (move item)).run state = ⟨.ok (), effect item state, trace⟩)
    (items : List ι) (start : σ) : ∃ run, follow perform start (items.map move) = .ok run ∧
      run.state = items.foldl (fun state item ↦ effect item state) start := by
  induction items using List.reverseRecOn with
  | nil => exact ⟨{ state := start }, rfl, rfl⟩
  | append_singleton items last ih =>
    obtain ⟨shorter, hshorter, hstate⟩ := ih
    obtain ⟨trace, hrun⟩ := hstep last shorter.state
    refine ⟨shorter.append (move last) trace (effect last shorter.state), ?_, ?_⟩
    · rw [List.map_append]
      exact follow_append_singleton.mpr ⟨shorter, hshorter, extend_eq_ok.mpr ⟨_, _, hrun, rfl⟩⟩
    · rw [Run.state_append, hstate, List.foldl_append]
      rfl

/-- The steps before a step of a run are themselves a run, and the step goes on from its end. -/
theorem follow_before_step {start : σ} {moves : List μ} {run : Run σ μ}
    (hfollow : follow perform start moves = .ok run) {earlier later : List (Step σ μ)}
    {step : Step σ μ} (hsteps : run.steps = earlier ++ step :: later) :
    (∃ before, before <+: moves ∧ follow perform start before = .ok ⟨step.before, earlier⟩) ∧
      step.move ∈ moves ∧
      (perform step.move).run step.before = ⟨.ok (), step.after, step.trace⟩ := by
  induction moves using List.reverseRecOn generalizing run later with
  | nil =>
    cases hfollow
    simp at hsteps
  | append_singleton moves last ih =>
    obtain ⟨shorter, hmoves, hextend⟩ := follow_append_singleton.mp hfollow
    obtain ⟨trace, after, hrun, rfl⟩ := extend_eq_ok.mp hextend
    rw [steps_append] at hsteps
    rcases List.eq_nil_or_concat later with rfl | ⟨more, final, rfl⟩
    · obtain ⟨hearlier, hstep⟩ := List.append_inj' hsteps rfl
      cases hstep
      subst hearlier
      exact ⟨⟨moves, List.prefix_append _ _, hmoves⟩, by simp, hrun⟩
    · have hmore : shorter.steps ++ [⟨shorter.state, last, trace, after⟩] =
          (earlier ++ step :: more) ++ [final] := by simpa using hsteps
      obtain ⟨hshorter, -⟩ := List.append_inj' hmore rfl
      obtain ⟨⟨before, hprefix, hbefore⟩, hmove, hperform⟩ := ih hmoves hshorter
      exact ⟨⟨before, hprefix.trans (List.prefix_append _ _), hbefore⟩,
        List.mem_append_left _ hmove, hperform⟩

end Follow

end Run

end TagControl
