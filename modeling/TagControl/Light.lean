import TagControl.Mode
/-!
The status light. Several conditions can hold at once and the light shows the pattern of the most
urgent one. Its level is that of the pattern at the present phase, in milliseconds; a pattern that
was not shown at the tick before starts at phase zero, whatever time has passed.
-/

set_option autoImplicit false

namespace TagControl

inductive Pattern where
  | heartbeat
  | slowBlink
  | fastBlink
  | doubleBlink
  | rapidFlash
  | off
deriving DecidableEq

/-- Whether the light is on at a phase of the pattern. -/
def Pattern.level (pattern : Pattern) (phase : UInt32) : Bool :=
  match pattern with
  | off => false
  | heartbeat => phase % 2000 < 50
  | slowBlink => phase % 1000 < 500
  | fastBlink => phase % 250 < 125
  | doubleBlink =>
    let cycle := phase % 1000
    cycle < 100 || (200 ≤ cycle && cycle < 300)
  | rapidFlash => phase % 125 < 63

structure Light where
  appRunning : Bool := false
  provisioned : Bool := false
  recovery : Bool := false
  identification : Bool := false
  dfu : Bool := false
  phase : UInt32 := 0
  shown : Option Pattern := none
deriving DecidableEq

namespace Light

def holds (light : Light) : Indication → Bool
  | .appRunning => light.appRunning
  | .provisioned => light.provisioned
  | .recovery => light.recovery
  | .identification => light.identification
  | .dfu => light.dfu

def withCondition (light : Light) (condition : Indication) (active : Bool) : Light :=
  match condition with
  | .appRunning => { light with appRunning := active }
  | .provisioned => { light with provisioned := active }
  | .recovery => { light with recovery := active }
  | .identification => { light with identification := active }
  | .dfu => { light with dfu := active }

@[simp] theorem holds_withCondition (light : Light) (condition other : Indication)
    (active : Bool) : (light.withCondition condition active).holds other =
      if other = condition then active else light.holds other := by
  cases condition <;> cases other <;> rfl

@[simp] theorem phase_withCondition (light : Light) (condition : Indication) (active : Bool) :
    (light.withCondition condition active).phase = light.phase := by
  cases condition <;> rfl

@[simp] theorem shown_withCondition (light : Light) (condition : Indication) (active : Bool) :
    (light.withCondition condition active).shown = light.shown := by
  cases condition <;> rfl

/-- The pattern of each condition, the most urgent first. -/
def urgency : List (Indication × Pattern) :=
  [(.dfu, .rapidFlash), (.recovery, .doubleBlink), (.identification, .fastBlink),
    (.provisioned, .heartbeat), (.appRunning, .slowBlink)]

def selected (light : Light) : Pattern :=
  match urgency.find? fun entry ↦ light.holds entry.1 with
  | some (_, pattern) => pattern
  | none => .off

/-- No condition holds and no pattern has been shown. -/
def clear (_ : Light) : Light :=
  {}

/-- Lets time pass and returns the level. The phase is counted modulo 2^32. -/
def tick (light : Light) (delta : UInt32) : Bool × Light :=
  let selected := light.selected
  let phase := if light.shown = some selected then light.phase + delta else 0
  (selected.level phase, { light with phase, shown := some selected })

end Light

end TagControl
