import TagControl.Config
import TagControl.Timers
/-!
The three timed modes and what they direct. A timed mode is entered for a window, refreshed by
entering it again, and left when its timer expires. The modes share one life and differ in the
data listed here: the light and the read window they open, whether they need a provisioned tag,
and the length of their window.
-/

set_option autoImplicit false

namespace TagControl

/-- What the pairing advertisement shows. -/
inductive AdvertisingMode where
  | off
  | discoverable
  | notDiscoverable
deriving DecidableEq

def AdvertisingMode.name : AdvertisingMode → String
  | off => "off"
  | discoverable => "discoverable"
  | notDiscoverable => "not-discoverable"

/-- A window in which the beacon lets a peer read: the identity key in recovery, identifying
information in identification. -/
inductive ReadMode where
  | recovery
  | identification
deriving DecidableEq

def ReadMode.name : ReadMode → String
  | recovery => "recovery"
  | identification => "identification"

/-- A condition the tag shows its user. -/
inductive Indication where
  | appRunning
  | provisioned
  | recovery
  | identification
  | dfu
deriving DecidableEq

namespace Indication

def all : List Indication :=
  [appRunning, provisioned, recovery, identification, dfu]

def name : Indication → String
  | appRunning => "app-running"
  | provisioned => "provisioned"
  | recovery => "recovery-mode"
  | identification => "identification-mode"
  | dfu => "dfu-mode"

end Indication

inductive Mode where
  | recovery
  | identification
  | dfu
deriving DecidableEq

namespace Mode

def all : List Mode :=
  [recovery, identification, dfu]

def name : Mode → String
  | recovery => "recovery mode"
  | identification => "identification mode"
  | dfu => "DFU mode"

def timer : Mode → Timer
  | recovery => .recovery
  | identification => .identification
  | dfu => .dfu

/-- The mode a timer ends. The factory-reset timer ends none. -/
def ofTimer : Timer → Option Mode
  | .recovery => some recovery
  | .identification => some identification
  | .dfu => some dfu
  | .factoryReset => none

def indication : Mode → Indication
  | recovery => .recovery
  | identification => .identification
  | dfu => .dfu

/-- The read window that is open during the mode. -/
def readMode : Mode → Option ReadMode
  | recovery => some .recovery
  | identification => some .identification
  | dfu => none

def ofReadMode : ReadMode → Mode
  | .recovery => recovery
  | .identification => identification

/-- Whether entering is refused while the tag is unprovisioned. -/
def needsProvisioning : Mode → Bool
  | recovery => true
  | identification => true
  | dfu => false

def window (config : Config) : Mode → Duration
  | recovery => config.recoveryWindow
  | identification => config.identificationWindow
  | dfu => config.dfuWindow

@[simp] theorem ofTimer_timer (mode : Mode) : ofTimer mode.timer = some mode := by
  cases mode <;> rfl

theorem ofTimer_eq_some {timer : Timer} {mode : Mode} :
    ofTimer timer = some mode ↔ timer = mode.timer := by
  cases timer <;> cases mode <;> decide

end Mode

/-- The length for which a read window opens: that of the mode it belongs to. -/
def ReadMode.window (config : Config) (mode : ReadMode) : Duration :=
  (Mode.ofReadMode mode).window config

end TagControl
