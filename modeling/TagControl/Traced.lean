/-!
A computation that leaves a trace: its value together with the entries it wrote, oldest first.
Sequencing joins the traces in order (`trace_bind`), so an entry once written is never lost or
moved, and what a computation writes cannot depend on what was written before it.
-/

set_option autoImplicit false

namespace TagControl

structure Traced (τ α : Type) where
  value : α
  trace : List τ

namespace Traced

variable {τ α β : Type}

instance : Monad (Traced τ) where
  pure a := ⟨a, []⟩
  bind x f :=
    let y := f x.value
    ⟨y.value, x.trace ++ y.trace⟩

@[simp] theorem value_pure (a : α) : (pure a : Traced τ α).value = a := rfl

@[simp] theorem trace_pure (a : α) : (pure a : Traced τ α).trace = [] := rfl

@[simp] theorem value_bind (x : Traced τ α) (f : α → Traced τ β) :
    (x >>= f).value = (f x.value).value := rfl

@[simp] theorem trace_bind (x : Traced τ α) (f : α → Traced τ β) :
    (x >>= f).trace = x.trace ++ (f x.value).trace := rfl

@[simp] theorem value_map (f : α → β) (x : Traced τ α) : (f <$> x).value = f x.value := rfl

@[simp] theorem trace_map (f : α → β) (x : Traced τ α) : (f <$> x).trace = x.trace := by
  simp [Functor.map]

theorem ext {x y : Traced τ α} (hvalue : x.value = y.value) (htrace : x.trace = y.trace) :
    x = y := by
  cases x
  cases y
  simp_all

instance : LawfulMonad (Traced τ) := LawfulMonad.mk' (Traced τ)
  (fun x ↦ ext rfl (by simp [Functor.map]))
  (fun _ _ ↦ ext rfl (by simp))
  (fun _ _ _ ↦ ext rfl (by simp))

/-- Writes one entry. -/
def tell (entry : τ) : Traced τ Unit :=
  ⟨(), [entry]⟩

@[simp] theorem trace_tell (entry : τ) : (tell entry).trace = [entry] := rfl

end Traced

end TagControl
