import TagControl.Act
import TagControl.Device
import TagControl.Store.Faulty
/-!
The account keys and the beacon's provisioning material in the store. A key goes into the lowest
slot that has no entry. A slot holds a key if its entry has exactly sixteen bytes; any other entry
occupies the slot without counting as a key. A factory reset erases the slots, then the identity
key, then the mark of provisioning, and stops at the first failure; the identity key is written
before the mark and erased before it.
-/

set_option autoImplicit false

namespace TagControl

/-- What a failing store means to the controller. -/
def DeviceError.ofStore : StoreError → DeviceError
  | .notFound => unavailable
  | .full => io
  | .io => io
  | .tooLong => io

namespace KeyRing

def keyLength : Nat :=
  16

def keySpace : String :=
  "fp_keys"

def slots : List Nat :=
  List.range 5

def slotKey (slot : Nat) : String :=
  "acc_key_" ++ toString slot

def beaconSpace : String :=
  "beacon"

def identityKey : String :=
  "eik"

def provisionedKey : String :=
  "prov"

def write (space key : String) (data : List UInt8) : Act Line DeviceError FaultyStore Unit := do
  match (← get).write space key data with
  | .ok store => set store
  | .error reason => Act.stop (.ofStore reason)

def delete (space key : String) : Act Line DeviceError FaultyStore Unit := do
  match (← get).delete space key with
  | .ok store => set store
  | .error reason => Act.stop (.ofStore reason)

/-- The lowest slot without an entry. -/
def freeSlot? (store : FaultyStore) : Option Nat :=
  slots.find? fun slot ↦ !store.contains keySpace (slotKey slot)

/-- Stores an account key and returns its slot. -/
def addKey (key : List UInt8) : Act Line DeviceError FaultyStore Nat := do
  match freeSlot? (← get) with
  | none => Act.stop .rejected
  | some slot =>
    write keySpace (slotKey slot) key
    Log.info ("KeyStore: account key stored in slot " ++ toString slot)
    return slot

/-- Stores the beacon's identity key and then marks the beacon as provisioned. -/
def storeIdentity (identity : List UInt8) : Act Line DeviceError FaultyStore Unit := do
  write beaconSpace identityKey identity
  write beaconSpace provisionedKey [1]

def isProvisioned (store : FaultyStore) : Bool :=
  store.contains beaconSpace provisionedKey

def slotHoldsKey (store : FaultyStore) (slot : Nat) : Traced Line (Except DeviceError Bool) := do
  match store.read keySpace (slotKey slot) keyLength with
  | .ok data =>
    if data.length = keyLength then
      return .ok true
    else
      Log.warn ("KeyStore: slot " ++ slotKey slot ++ " holds " ++ toString data.length ++
        " bytes, ignoring")
      return .ok false
  | .error .notFound => return .ok false
  | .error .tooLong =>
    Log.warn ("KeyStore: slot " ++ slotKey slot ++ " oversized, ignoring")
    return .ok false
  | .error reason => return .error (.ofStore reason)

/-- Looks through slots until one holds a key or cannot be read. -/
def anyHoldsKey (store : FaultyStore) : List Nat → Traced Line (Except DeviceError Bool)
  | [] => return .ok false
  | slot :: rest => do
    match ← slotHoldsKey store slot with
    | .ok false => anyHoldsKey store rest
    | answer => return answer

def hasKey (store : FaultyStore) : Traced Line (Except DeviceError Bool) :=
  anyHoldsKey store slots

/-- The entries that a factory reset erases, in order. -/
def erased : List (String × String) :=
  slots.map (fun slot ↦ (keySpace, slotKey slot)) ++
    [(beaconSpace, identityKey), (beaconSpace, provisionedKey)]

/-- Deletes entries in order, up to the first that cannot be deleted. -/
def deleteAll : List (String × String) → Act Line DeviceError FaultyStore Unit
  | [] => return
  | (space, key) :: rest => do
    delete space key
    deleteAll rest

def factoryReset : Act Line DeviceError FaultyStore Unit := do
  deleteAll erased
  Log.info "KeyStore: all account keys and beacon material erased"

end KeyRing

end TagControl
