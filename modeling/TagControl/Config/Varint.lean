/-!
Numbers as groups of seven bits, the lowest first; every byte but the last carries a mark of 128.
A format bounds the number of groups and the value of the byte in the last allowed place.
Zero groups at the end are accepted inside the bound, so a number may be read from more than one
text, but it is written in one way only, without them.
-/

set_option autoImplicit false

namespace TagControl

structure Varint where
  groups : Nat
  lastMax : UInt8

namespace Varint

/-- Numbers of 16 bits: two whole groups and two bits. -/
def bits16 : Varint :=
  ⟨3, 3⟩

/-- Numbers of 32 bits: four whole groups and four bits. -/
def bits32 : Varint :=
  ⟨5, 15⟩

def encodeGroups : Nat → Nat → List UInt8
  | 0, _ => []
  | groups + 1, n =>
    if n < 128 then [UInt8.ofNat n]
    else UInt8.ofNat (n % 128 + 128) :: encodeGroups groups (n / 128)

def encode (format : Varint) (n : Nat) : List UInt8 :=
  encodeGroups format.groups n

/-- Reads one number and returns it with the bytes after it. -/
def decodeGroups (lastMax : UInt8) : Nat → List UInt8 → Option (Nat × List UInt8)
  | groups + 1, byte :: rest =>
    if byte < 128 then
      if groups = 0 ∧ lastMax < byte then none else some (byte.toNat, rest)
    else
      (decodeGroups lastMax groups rest).map fun (high, rest) ↦
        (byte.toNat - 128 + 128 * high, rest)
  | _, _ => none

def decode (format : Varint) (bytes : List UInt8) : Option (Nat × List UInt8) :=
  decodeGroups format.lastMax format.groups bytes

end Varint

end TagControl
