import TagControl.Log
import TagControl.Time
/-!
Four one-shot deadlines and the instant they are compared with. The table reads no clock: it is
told the time, which never runs backwards. A deadline equal to the current instant has been
reached. `Timers.advance` disarms the deadlines that have been reached and lists their timers by
deadline, and timers with one deadline in the order of `Timer.all`.
-/

set_option autoImplicit false

namespace TagControl

inductive Timer where
  | dfu
  | recovery
  | identification
  | factoryReset
deriving DecidableEq

namespace Timer

def all : List Timer :=
  [dfu, recovery, identification, factoryReset]

def name : Timer → String
  | dfu => "dfu-mode"
  | recovery => "recovery-mode"
  | identification => "identification-mode"
  | factoryReset => "factory-reset"

end Timer

structure Timers where
  now : Instant
  dfu : Option Instant := none
  recovery : Option Instant := none
  identification : Option Instant := none
  factoryReset : Option Instant := none
deriving DecidableEq

namespace Timers

def deadline (timers : Timers) : Timer → Option Instant
  | .dfu => timers.dfu
  | .recovery => timers.recovery
  | .identification => timers.identification
  | .factoryReset => timers.factoryReset

def isArmed (timers : Timers) (timer : Timer) : Bool :=
  (timers.deadline timer).isSome

/-- The same clock with the given deadlines. -/
def withDeadlines (timers : Timers) (deadlines : Timer → Option Instant) : Timers where
  now := timers.now
  dfu := deadlines .dfu
  recovery := deadlines .recovery
  identification := deadlines .identification
  factoryReset := deadlines .factoryReset

@[simp] theorem deadline_withDeadlines (timers : Timers) (deadlines : Timer → Option Instant)
    (timer : Timer) : (timers.withDeadlines deadlines).deadline timer = deadlines timer := by
  cases timer <;> rfl

@[simp] theorem now_withDeadlines (timers : Timers) (deadlines : Timer → Option Instant) :
    (timers.withDeadlines deadlines).now = timers.now := rfl

theorem ext {first second : Timers} (hnow : first.now = second.now)
    (hdeadline : ∀ timer, first.deadline timer = second.deadline timer) : first = second := by
  cases first
  cases second
  have hdfu := hdeadline .dfu
  have hrecovery := hdeadline .recovery
  have hidentification := hdeadline .identification
  have hreset := hdeadline .factoryReset
  simp_all [deadline]

def withDeadline (timers : Timers) (timer : Timer) (value : Option Instant) : Timers :=
  timers.withDeadlines fun other ↦ if other = timer then value else timers.deadline other

@[simp] theorem deadline_withDeadline (timers : Timers) (timer other : Timer)
    (value : Option Instant) : (timers.withDeadline timer value).deadline other =
      if other = timer then value else timers.deadline other := by
  simp [withDeadline]

@[simp] theorem now_withDeadline (timers : Timers) (timer : Timer) (value : Option Instant) :
    (timers.withDeadline timer value).now = timers.now := rfl

/-- Arms a timer, replacing the deadline it may have had. A deadline past the last instant is
refused and changes nothing. -/
def arm (timer : Timer) (wait : Duration) : Logged Timers (Except ClockOverflow Unit) := do
  let timers ← get
  match Instant.after timers.now wait with
  | .error overflow => return .error overflow
  | .ok reached =>
    set (timers.withDeadline timer (some reached))
    let verb := if timers.isArmed timer then "re-armed" else "armed"
    Log.debug ("Timers: " ++ timer.name ++ " " ++ verb ++ " for " ++ toString wait.millis ++ " ms")
    return .ok ()

/-- Disarms a timer and says whether it was armed. -/
def cancel (timer : Timer) : Logged Timers Bool := do
  let timers ← get
  if timers.isArmed timer then
    set (timers.withDeadline timer none)
    Log.debug ("Timers: " ++ timer.name ++ " cancelled")
    return true
  else
    return false

/-- The earliest deadline. -/
def next (timers : Timers) : Option Instant :=
  (Timer.all.filterMap timers.deadline).min?

/-- Puts a timer in front of the first one whose deadline is not earlier. -/
def insertByDeadline (due : Instant × Timer) : List (Instant × Timer) → List (Instant × Timer)
  | [] => [due]
  | first :: rest =>
    if due.1 ≤ first.1 then due :: first :: rest else first :: insertByDeadline due rest

/-- The deadlines reached by the current instant, the earliest first. -/
def due (timers : Timers) : List (Instant × Timer) :=
  (Timer.all.filterMap fun timer ↦
    match timers.deadline timer with
    | some reached => if reached ≤ timers.now then some (reached, timer) else none
    | none => none).foldr insertByDeadline []

/-- Disarms every timer whose deadline has been reached. -/
def disarmDue (timers : Timers) : Timers :=
  timers.withDeadlines fun timer ↦ (timers.deadline timer).filter (timers.now < ·)

/-- Moves the clock forward and returns the timers that expire, in order. An earlier instant
leaves the clock where it is. -/
def advance (timers : Timers) (now : Instant) : List Timer × Timers :=
  let moved := { timers with now := max timers.now now }
  (moved.due.map (·.2), moved.disarmDue)

end Timers

end TagControl
