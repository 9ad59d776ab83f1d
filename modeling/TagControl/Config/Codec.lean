import TagControl.Config
import TagControl.Config.Varint
/-!
A configuration as bytes: its eight fields in order, each a number in groups of seven bits.
Reading returns the bytes after the last field, which mean nothing to a configuration.
-/

set_option autoImplicit false

namespace TagControl

namespace Config

def encode (config : Config) : List UInt8 :=
  Varint.bits16.encode config.recoveryMinutes.toNat ++
  Varint.bits16.encode config.identificationMinutes.toNat ++
  Varint.bits16.encode config.dfuMinutes.toNat ++
  Varint.bits16.encode config.provisioningMinutes.toNat ++
  Varint.bits16.encode config.mismatchSeconds.toNat ++
  Varint.bits32.encode config.recoveryHoldMillis.toNat ++
  Varint.bits32.encode config.debounceMillis.toNat ++
  Varint.bits16.encode config.startupSeconds.toNat

/-- Reads the eight fields and returns the configuration with the bytes after it. -/
def decode (bytes : List UInt8) : Option (Config × List UInt8) := do
  let (recovery, bytes) ← Varint.bits16.decode bytes
  let (identification, bytes) ← Varint.bits16.decode bytes
  let (dfu, bytes) ← Varint.bits16.decode bytes
  let (provisioning, bytes) ← Varint.bits16.decode bytes
  let (mismatch, bytes) ← Varint.bits16.decode bytes
  let (hold, bytes) ← Varint.bits32.decode bytes
  let (debounce, bytes) ← Varint.bits32.decode bytes
  let (startup, bytes) ← Varint.bits16.decode bytes
  return ({
    recoveryMinutes := .ofNat recovery
    identificationMinutes := .ofNat identification
    dfuMinutes := .ofNat dfu
    provisioningMinutes := .ofNat provisioning
    mismatchSeconds := .ofNat mismatch
    recoveryHoldMillis := .ofNat hold
    debounceMillis := .ofNat debounce
    startupSeconds := .ofNat startup }, bytes)

end Config

end TagControl
