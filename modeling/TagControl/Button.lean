import TagControl.Config
import TagControl.Event
import TagControl.Log
/-!
A button that is sampled. A press counts once samples have been low for the debounce time, and is
reported when the first sample after it is not low, with the time since its first low sample. Time
is counted in milliseconds modulo 2^32. A sample that cannot be read counts as released.
-/

set_option autoImplicit false

namespace TagControl

inductive Sample where
  | low
  | high
  | failed
deriving DecidableEq

inductive Gesture where
  | idle
  /-- Low since the given time, for less than the debounce time. -/
  | bouncing (since : UInt32)
  | pressed (since : UInt32)
deriving DecidableEq

structure Button where
  debounce : UInt32
  gesture : Gesture := .idle
deriving DecidableEq

namespace Button

def isHeld (button : Button) : Bool :=
  match button.gesture with
  | .pressed _ => true
  | _ => false

/-- The gesture after a sample, and the length of a press that it ends. -/
def step (button : Button) (now : UInt32) (low : Bool) : Gesture × Option UInt32 :=
  match button.gesture with
  | .idle => (if low then .bouncing now else .idle, none)
  | .bouncing since =>
    if !low then (.idle, none)
    else if button.debounce ≤ now - since then (.pressed since, none)
    else (.bouncing since, none)
  | .pressed since => if low then (.pressed since, none) else (.idle, some (now - since))

/-- Takes a sample and returns the length of a press that it ends. -/
def tick (now : UInt32) (sample : Sample) : Logged Button (Option UInt32) := do
  let button ← get
  if sample = .failed then
    Log.warn "Button: pin read failed, treating as released"
  let (gesture, held) := button.step now (sample = .low)
  set { button with gesture }
  return held

inductive Role where
  | mode
  | dfu
deriving DecidableEq

/-- What a press asks for: the mode button tells a long hold from a short press. -/
def Role.request (role : Role) (held : UInt32) (config : Config) : Request :=
  match role with
  | mode => if config.recoveryHoldMillis ≤ held then .recovery else .identification
  | dfu => .dfu

end Button

end TagControl
