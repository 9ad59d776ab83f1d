import TagControl.Mode
/-!
Raw payloads and their readings. A management header has eight bytes: the operation in the low
three bits of the first, the group in the fifth and sixth (the high byte first), the sequence
number and the command. A callback is checked for its event, then its size, then its operation,
and the first fault is reported.
-/

set_option autoImplicit false

namespace TagControl

inductive PayloadError where
  | spuriousEvent (event : UInt32)
  | wrongSize (got expected : Nat)
  | unknownOperation (operation : UInt8)
  | unknownReadMode (raw : UInt8)
deriving DecidableEq

namespace PayloadError

/-- A number in base sixteen with lower-case digits. -/
def hexText (n : Nat) : String :=
  "0x" ++ String.ofList (Nat.toDigits 16 n)

def message : PayloadError → String
  | spuriousEvent event => "spurious event " ++ hexText event.toNat
  | wrongSize got expected =>
    "invalid payload size " ++ toString got ++ " (expected " ++ toString expected ++ ")"
  | unknownOperation operation => "unknown SMP op " ++ toString operation.toNat
  | unknownReadMode raw => "unknown read mode " ++ toString raw.toNat

end PayloadError

inductive Operation where
  | read
  | readResponse
  | write
  | writeResponse
deriving DecidableEq

/-- The operation in the low three bits of a byte. -/
def Operation.ofByte (byte : UInt8) : Except PayloadError Operation :=
  match (byte % 8).toNat with
  | 0 => .ok read
  | 1 => .ok readResponse
  | 2 => .ok write
  | 3 => .ok writeResponse
  | _ => .error (.unknownOperation (byte % 8))

structure Command where
  operation : Operation
  group : UInt16
  id : UInt8
  sequence : UInt8
deriving DecidableEq

namespace Command

def headerSize : Nat :=
  8

/-- The one event of the management transport that carries a command. -/
def receivedEvent : UInt32 :=
  1

def ofHeader (data : List UInt8) : Except PayloadError Command :=
  match data with
  | [operation, _, _, _, high, low, sequence, id] => do
    let operation ← Operation.ofByte operation
    let group := UInt16.ofNat (256 * high.toNat + low.toNat)
    return { operation, group, id, sequence }
  | _ => .error (.wrongSize data.length headerSize)

def ofCallback (event : UInt32) (data : List UInt8) : Except PayloadError Command :=
  if event = receivedEvent then ofHeader data else .error (.spuriousEvent event)

/-- The commands of the image group, and the reset of the system group that completes an
update. -/
def isUpdate (command : Command) : Bool :=
  command.group = 1 || (command.group = 0 && command.id = 5)

end Command

def ReadMode.ofByte (raw : UInt8) : Except PayloadError ReadMode :=
  match raw.toNat with
  | 0 => .ok recovery
  | 1 => .ok identification
  | _ => .error (.unknownReadMode raw)

end TagControl
