import TagControl.Store
/-!
A store in which any single access can be made to fail. A fault belongs to one kind of access on
one exact namespace and key, and an access that fails leaves the store as it was. Whether an entry
exists is always told truly.
-/

set_option autoImplicit false

namespace TagControl

inductive AccessKind where
  | read
  | write
  | delete
deriving DecidableEq

structure Access where
  kind : AccessKind
  space : String
  key : String
deriving DecidableEq

structure FaultyStore where
  store : Store := {}
  faults : List (Access × StoreError) := []
deriving DecidableEq

namespace FaultyStore

def fault? (faulty : FaultyStore) (access : Access) : Option StoreError :=
  faulty.faults.lookup access

/-- Makes an access fail, or succeed again. -/
def setFault (faulty : FaultyStore) (access : Access) (fault : Option StoreError) :
    FaultyStore :=
  let others := faulty.faults.filter fun entry ↦ entry.1 ≠ access
  match fault with
  | some error => { faulty with faults := (access, error) :: others }
  | none => { faulty with faults := others }

def read (faulty : FaultyStore) (space key : String) (capacity : Nat) :
    Except StoreError (List UInt8) :=
  match faulty.fault? ⟨.read, space, key⟩ with
  | some error => .error error
  | none => faulty.store.read space key capacity

def write (faulty : FaultyStore) (space key : String) (data : List UInt8) :
    Except StoreError FaultyStore :=
  match faulty.fault? ⟨.write, space, key⟩ with
  | some error => .error error
  | none => .ok { faulty with store := faulty.store.write space key data }

def delete (faulty : FaultyStore) (space key : String) : Except StoreError FaultyStore :=
  match faulty.fault? ⟨.delete, space, key⟩ with
  | some error => .error error
  | none => .ok { faulty with store := faulty.store.delete space key }

def contains (faulty : FaultyStore) (space key : String) : Bool :=
  faulty.store.contains space key

end FaultyStore

end TagControl
