import TagControl.Device
import TagControl.Event
/-!
The beacon's read windows. Each window has its own closing instant and closes on its own; the
closing is reported by an event, which is lost if the queue is full. Opening an open window moves
its closing instant.
-/

set_option autoImplicit false

namespace TagControl

structure ReadWindows where
  now : Instant
  recoveryLength : Duration
  identificationLength : Duration
  recovery : Option Instant := none
  identification : Option Instant := none
deriving DecidableEq

namespace ReadWindows

def create (config : Config) (now : Instant) : ReadWindows where
  now
  recoveryLength := config.recoveryWindow
  identificationLength := config.identificationWindow

def length (windows : ReadWindows) : ReadMode → Duration
  | .recovery => windows.recoveryLength
  | .identification => windows.identificationLength

/-- When an open window closes. -/
def closing (windows : ReadWindows) : ReadMode → Option Instant
  | .recovery => windows.recovery
  | .identification => windows.identification

def isOpen (windows : ReadWindows) (mode : ReadMode) : Bool :=
  (windows.closing mode).isSome

def withClosing (windows : ReadWindows) (mode : ReadMode) (value : Option Instant) :
    ReadWindows :=
  match mode with
  | .recovery => { windows with recovery := value }
  | .identification => { windows with identification := value }

@[simp] theorem closing_withClosing (windows : ReadWindows) (mode other : ReadMode)
    (value : Option Instant) : (windows.withClosing mode value).closing other =
      if other = mode then value else windows.closing other := by
  cases mode <;> cases other <;> rfl

@[simp] theorem now_withClosing (windows : ReadWindows) (mode : ReadMode)
    (value : Option Instant) : (windows.withClosing mode value).now = windows.now := by
  cases mode <;> rfl

@[simp] theorem length_withClosing (windows : ReadWindows) (mode other : ReadMode)
    (value : Option Instant) : (windows.withClosing mode value).length other =
      windows.length other := by
  cases mode <;> cases other <;> rfl

/-- Opens a window, counting from the last instant the windows were told. -/
def enter (mode : ReadMode) : Logged ReadWindows (Except ClockOverflow Unit) := do
  let windows ← get
  let length := windows.length mode
  match Instant.after windows.now length with
  | .error overflow => return .error overflow
  | .ok closing =>
    set (windows.withClosing mode (some closing))
    Log.info ("BEACON | " ++ mode.name ++ " read mode open for " ++ toString length.seconds ++
      " s")
    return .ok ()

/-- Whether a window is open whose closing instant has been reached. -/
def isDue (windows : ReadWindows) (mode : ReadMode) : Bool :=
  (windows.closing mode).any (· ≤ windows.now)

/-- Closes a window that is due and reports it. -/
def closeIfDue (mode : ReadMode) : Logged (ReadWindows × EventQueue) Unit := do
  let (windows, queue) ← get
  if windows.isDue mode then
    set (windows.withClosing mode none, queue)
    Log.info ("BEACON | " ++ mode.name ++ " read mode closed")
    let posted ← Logged.on Prod.snd (fun (windows, _) queue ↦ (windows, queue))
      (EventQueue.post (.readModeExited mode))
    unless posted do
      Log.warn ("BEACON | exit of " ++ mode.name ++ " read mode lost")

/-- Moves the clock of the windows forward and closes those that are due. An earlier instant
leaves the clock where it is. -/
def advance (now : Instant) : Logged (ReadWindows × EventQueue) Unit := do
  modify fun (windows, queue) ↦ ({ windows with now := max windows.now now }, queue)
  closeIfDue .recovery
  closeIfDue .identification

end ReadWindows

end TagControl
