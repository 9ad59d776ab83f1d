import TagControl.Mode
/-!
What the controller remembers between events: the reported provisioning state, the three timed
modes, the last answer about account keys, and the reset that is pending. At most one reset is
pending, so a cause that is recorded replaces the one before it.
-/

set_option autoImplicit false

namespace TagControl

inductive ResetCause where
  /-- The stored account keys disagreed with the provisioning state. -/
  | keyMismatch
  /-- An account key was written and provisioning was not completed in time. -/
  | provisioningTimeout
deriving DecidableEq

def ResetCause.name : ResetCause → String
  | keyMismatch => "key-state mismatch"
  | provisioningTimeout => "provisioning timeout"

structure Ledger where
  provisioned : Bool := false
  recovery : Bool := false
  identification : Bool := false
  dfu : Bool := false
  keyPresent : Bool := false
  pending : Option ResetCause := none
  /-- A reset has run and its provisioning callback has not come yet. -/
  resetDone : Bool := false
  firstCallback : Bool := true
deriving DecidableEq

namespace Ledger

def isActive (ledger : Ledger) : Mode → Bool
  | .recovery => ledger.recovery
  | .identification => ledger.identification
  | .dfu => ledger.dfu

def withActive (ledger : Ledger) (mode : Mode) (active : Bool) : Ledger :=
  match mode with
  | .recovery => { ledger with recovery := active }
  | .identification => { ledger with identification := active }
  | .dfu => { ledger with dfu := active }

@[simp] theorem isActive_withActive (ledger : Ledger) (mode other : Mode) (active : Bool) :
    (ledger.withActive mode active).isActive other =
      if other = mode then active else ledger.isActive other := by
  cases mode <;> cases other <;> rfl

@[simp] theorem provisioned_withActive (ledger : Ledger) (mode : Mode) (active : Bool) :
    (ledger.withActive mode active).provisioned = ledger.provisioned := by
  cases mode <;> rfl

@[simp] theorem keyPresent_withActive (ledger : Ledger) (mode : Mode) (active : Bool) :
    (ledger.withActive mode active).keyPresent = ledger.keyPresent := by
  cases mode <;> rfl

@[simp] theorem pending_withActive (ledger : Ledger) (mode : Mode) (active : Bool) :
    (ledger.withActive mode active).pending = ledger.pending := by
  cases mode <;> rfl

@[simp] theorem resetDone_withActive (ledger : Ledger) (mode : Mode) (active : Bool) :
    (ledger.withActive mode active).resetDone = ledger.resetDone := by
  cases mode <;> rfl

@[simp] theorem firstCallback_withActive (ledger : Ledger) (mode : Mode) (active : Bool) :
    (ledger.withActive mode active).firstCallback = ledger.firstCallback := by
  cases mode <;> rfl

end Ledger

end TagControl
