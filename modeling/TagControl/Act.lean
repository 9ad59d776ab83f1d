import TagControl.Log
/-!
Computations on a state that leave a trace and may end early. What was done before an early end
stays done: the state and the trace that it leaves are those of the moment at which it ended.
`Act.run_bind` says how two computations join: the second runs in the state the first left and
writes behind it, unless the first ended early.
-/

set_option autoImplicit false

namespace TagControl

structure Outcome (τ ε σ α : Type) where
  result : Except ε α
  state : σ
  trace : List τ

structure Act (τ ε σ α : Type) where
  run : σ → Outcome τ ε σ α

namespace Outcome

variable {τ ε σ α β : Type}

/-- The same outcome with entries written before its own. -/
def behind (entries : List τ) (out : Outcome τ ε σ α) : Outcome τ ε σ α :=
  { out with trace := entries ++ out.trace }

@[simp] theorem result_behind (entries : List τ) (out : Outcome τ ε σ α) :
    (out.behind entries).result = out.result := rfl

@[simp] theorem state_behind (entries : List τ) (out : Outcome τ ε σ α) :
    (out.behind entries).state = out.state := rfl

@[simp] theorem trace_behind (entries : List τ) (out : Outcome τ ε σ α) :
    (out.behind entries).trace = entries ++ out.trace := rfl

@[simp] theorem behind_nil (out : Outcome τ ε σ α) : out.behind [] = out := rfl

@[simp] theorem behind_behind (first second : List τ) (out : Outcome τ ε σ α) :
    (out.behind second).behind first = out.behind (first ++ second) := by
  simp [behind]

@[simp] theorem behind_mk (entries trace : List τ) (result : Except ε α) (state : σ) :
    (⟨result, state, trace⟩ : Outcome τ ε σ α).behind entries =
      ⟨result, state, entries ++ trace⟩ := rfl

/-- Goes on with a second computation unless the first ended early. -/
def andThen (out : Outcome τ ε σ α) (next : α → Act τ ε σ β) : Outcome τ ε σ β :=
  match out.result with
  | .ok value => ((next value).run out.state).behind out.trace
  | .error reason => ⟨.error reason, out.state, out.trace⟩

@[simp] theorem andThen_ok (value : α) (state : σ) (trace : List τ) (next : α → Act τ ε σ β) :
    (⟨.ok value, state, trace⟩ : Outcome τ ε σ α).andThen next =
      ((next value).run state).behind trace := rfl

@[simp] theorem andThen_error (reason : ε) (state : σ) (trace : List τ) (next : α → Act τ ε σ β) :
    (⟨.error reason, state, trace⟩ : Outcome τ ε σ α).andThen next =
      ⟨.error reason, state, trace⟩ := rfl

/-- The same outcome with another answer. -/
def map (f : α → β) (out : Outcome τ ε σ α) : Outcome τ ε σ β :=
  ⟨out.result.map f, out.state, out.trace⟩

@[simp] theorem map_mk (f : α → β) (result : Except ε α) (state : σ) (trace : List τ) :
    (⟨result, state, trace⟩ : Outcome τ ε σ α).map f = ⟨result.map f, state, trace⟩ := rfl

@[simp] theorem result_map (f : α → β) (out : Outcome τ ε σ α) :
    (out.map f).result = out.result.map f := rfl

@[simp] theorem state_map (f : α → β) (out : Outcome τ ε σ α) : (out.map f).state = out.state := rfl

@[simp] theorem trace_map (f : α → β) (out : Outcome τ ε σ α) : (out.map f).trace = out.trace := rfl

@[simp] theorem map_behind (f : α → β) (entries : List τ) (out : Outcome τ ε σ α) :
    (out.behind entries).map f = (out.map f).behind entries := rfl

@[simp] theorem andThen_behind (entries : List τ) (out : Outcome τ ε σ α)
    (next : α → Act τ ε σ β) :
    (out.behind entries).andThen next = (out.andThen next).behind entries := by
  obtain ⟨result, state, trace⟩ := out
  cases result <;> simp

end Outcome

namespace Act

variable {τ ε σ α β : Type}

instance : Monad (Act τ ε σ) where
  pure value := ⟨fun state ↦ ⟨.ok value, state, []⟩⟩
  bind act next := ⟨fun state ↦ (act.run state).andThen next⟩

instance : MonadStateOf σ (Act τ ε σ) where
  get := ⟨fun state ↦ ⟨.ok state, state, []⟩⟩
  set state := ⟨fun _ ↦ ⟨.ok (), state, []⟩⟩
  modifyGet change := ⟨fun state ↦ ⟨.ok (change state).1, (change state).2, []⟩⟩

/-- Ends the computation. -/
def stop (reason : ε) : Act τ ε σ α :=
  ⟨fun state ↦ ⟨.error reason, state, []⟩⟩

/-- Writes entries. -/
def tell (entries : List τ) : Act τ ε σ Unit :=
  ⟨fun state ↦ ⟨.ok (), state, entries⟩⟩

instance [OfLine τ] : MonadLog (Act τ ε σ) :=
  ⟨fun line ↦ tell [OfLine.ofLine line]⟩

/-- The computation with its early end as an answer. -/
def logged (act : Act Line ε σ α) : Logged σ (Except ε α) := fun state ↦
  let out := act.run state
  ⟨(out.result, out.state), out.trace⟩

theorem ext {first second : Act τ ε σ α} (h : ∀ state, first.run state = second.run state) :
    first = second := by
  cases first
  cases second
  exact congrArg Act.mk (funext h)

@[simp] theorem run_pure (value : α) (state : σ) :
    (pure value : Act τ ε σ α).run state = ⟨.ok value, state, []⟩ := rfl

@[simp] theorem run_bind (act : Act τ ε σ α) (next : α → Act τ ε σ β) (state : σ) :
    (act >>= next).run state = (act.run state).andThen next := rfl

@[simp] theorem run_map (f : α → β) (act : Act τ ε σ α) (state : σ) :
    (f <$> act).run state = (act.run state).map f := by
  rcases h : act.run state with ⟨_ | _, _, _⟩ <;>
    simp [Functor.map, Outcome.andThen, Outcome.map, Except.map, h]

@[simp] theorem run_get (state : σ) :
    (get : Act τ ε σ σ).run state = ⟨.ok state, state, []⟩ := rfl

@[simp] theorem run_set (new state : σ) :
    (set new : Act τ ε σ PUnit).run state = ⟨.ok (), new, []⟩ := rfl

@[simp] theorem run_modify (change : σ → σ) (state : σ) :
    (modify change : Act τ ε σ PUnit).run state = ⟨.ok (), change state, []⟩ := rfl

@[simp] theorem run_stop (reason : ε) (state : σ) :
    (stop reason : Act τ ε σ α).run state = ⟨.error reason, state, []⟩ := rfl

@[simp] theorem run_tell (entries : List τ) (state : σ) :
    (tell entries : Act τ ε σ Unit).run state = ⟨.ok (), state, entries⟩ := rfl

@[simp] theorem run_log [OfLine τ] (line : Line) (state : σ) :
    (MonadLog.log line : Act τ ε σ Unit).run state = ⟨.ok (), state, [OfLine.ofLine line]⟩ := rfl

instance : LawfulMonad (Act τ ε σ) := LawfulMonad.mk' (Act τ ε σ)
  (fun act ↦ ext fun state ↦ by
    rcases h : act.run state with ⟨_ | _, _, _⟩ <;> simp [Outcome.map, Except.map, h])
  (fun _ _ ↦ ext fun _ ↦ by simp)
  (fun act _ _ ↦ ext fun state ↦ by
    rcases h : act.run state with ⟨_ | _, _, _⟩ <;> simp [h])

end Act

end TagControl
