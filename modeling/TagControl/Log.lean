import TagControl.Traced
/-!
Log lines and the computations that write them. A line has a level and a text and is shown as
the level's name, a blank and the text. `Logged σ` is a computation on a state of type `σ` that
writes lines; it never reads them back.
-/

set_option autoImplicit false

namespace TagControl

inductive Level where
  | error
  | warn
  | info
  | debug
deriving DecidableEq

def Level.name : Level → String
  | error => "ERROR"
  | warn => "WARN"
  | info => "INFO"
  | debug => "DEBUG"

structure Line where
  level : Level
  text : String
deriving DecidableEq

def Line.render (line : Line) : String :=
  line.level.name ++ " " ++ line.text

/-- Traces whose entries can be lines. -/
class OfLine (τ : Type) where
  ofLine : Line → τ

instance : OfLine Line :=
  ⟨id⟩

class MonadLog (m : Type → Type) where
  log : Line → m Unit

instance {τ : Type} [OfLine τ] : MonadLog (Traced τ) :=
  ⟨fun line ↦ Traced.tell (OfLine.ofLine line)⟩

namespace Log

variable {m : Type → Type} [MonadLog m]

def error (text : String) : m Unit :=
  MonadLog.log ⟨.error, text⟩

def warn (text : String) : m Unit :=
  MonadLog.log ⟨.warn, text⟩

def info (text : String) : m Unit :=
  MonadLog.log ⟨.info, text⟩

def debug (text : String) : m Unit :=
  MonadLog.log ⟨.debug, text⟩

end Log

abbrev Logged (σ : Type) : Type → Type :=
  StateT σ (Traced Line)

namespace Logged

variable {σ ρ α : Type}

instance : MonadLog (Logged σ) :=
  ⟨fun line ↦ StateT.lift (MonadLog.log line)⟩

@[simp] theorem run_log (line : Line) (state : σ) :
    (MonadLog.log line : Logged σ Unit).run state = ⟨((), state), [line]⟩ := rfl

/-- Runs a computation on one part of a larger state. -/
def on (part : σ → ρ) (update : σ → ρ → σ) (act : Logged ρ α) : Logged σ α := fun state ↦
  let out := act.run (part state)
  ⟨(out.value.1, update state out.value.2), out.trace⟩

@[simp] theorem run_on (part : σ → ρ) (update : σ → ρ → σ) (act : Logged ρ α) (state : σ) :
    (on part update act).run state =
      ⟨((act.run (part state)).value.1, update state (act.run (part state)).value.2),
        (act.run (part state)).trace⟩ := rfl

end Logged

end TagControl
