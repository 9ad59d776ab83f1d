import TagControl.Advertising
import TagControl.KeyRing
import TagControl.Light
import TagControl.ReadWindows
import TagControl.Store.Settings
/-!
The parts of a tag's device side, directed as one device: the advertisement, the keys in the
store, the read windows and the light.
-/

set_option autoImplicit false

namespace TagControl

structure Peripherals where
  advertising : Advertising := {}
  store : FaultyStore := {}
  windows : ReadWindows
  light : Light := {}
deriving DecidableEq

namespace Peripherals

/-- Brings up the parts with an empty store, all windows closed and the radio not ready. -/
def create (config : Config) (now : Instant) : Traced Line Peripherals := do
  let store ← Store.create
  return { store := { store }, windows := .create config now }

variable {α : Type}

def onAdvertising (act : Logged Advertising α) : Logged Peripherals α :=
  act.on advertising fun parts advertising ↦ { parts with advertising }

def onStore (act : Logged FaultyStore α) : Logged Peripherals α :=
  act.on store fun parts store ↦ { parts with store }

def onWindows (act : Logged ReadWindows α) : Logged Peripherals α :=
  act.on windows fun parts windows ↦ { parts with windows }

/-- Shows a condition to the user. -/
def indicate (condition : Indication) (active : Bool) : Logged Peripherals Unit := do
  Log.info ("UI | " ++ condition.name ++ " " ++ if active then "on" else "off")
  modify fun parts ↦ { parts with light := parts.light.withCondition condition active }

/-- Lets time pass for the light and returns its level. -/
def tick (delta : UInt32) : Logged Peripherals Bool := do
  let parts ← get
  let (level, light) := parts.light.tick delta
  set { parts with light }
  return level

instance : Device Peripherals where
  advertise mode := onAdvertising (Advertising.advertise mode)
  suspendRotation suspend := onAdvertising (Advertising.suspendRotation suspend)
  offerUpdates offer := onAdvertising (Advertising.offerUpdates offer)
  holdsKey parts := KeyRing.hasKey parts.store
  openWindow mode := return (← onWindows (ReadWindows.enter mode)).mapError .clockOverflow
  indicate := indicate
  factoryReset := onStore KeyRing.factoryReset.logged

end Peripherals

end TagControl
