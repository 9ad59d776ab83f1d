import Mathlib.Data.List.Forall2
import TagControl.Proofs.Varint
import TagControl.Store.Settings
/-!
The bytes of a configuration. They are eight texts, one for each field in the order of the fields
(`Config.formats`, `Config.numbers`). Reading succeeds exactly on bytes that start with eight such
texts, gives the configuration with their values, and leaves the bytes behind them. What is written
is read back whole, is never longer than the entry that is read, and no other bytes that give the
same configuration are shorter.
-/

set_option autoImplicit false

namespace TagControl

namespace Varint

/-! ### Several numbers -/

/-- Reads one number in each format. -/
def decodeEach : List Varint → List UInt8 → Option (List Nat × List UInt8)
  | [], bytes => some ([], bytes)
  | format :: formats, bytes => do
    let (n, bytes) ← format.decode bytes
    let (numbers, bytes) ← decodeEach formats bytes
    return (n :: numbers, bytes)

theorem bind_decodeEach_nil {α : Type} (bytes : List UInt8)
    (next : List Nat × List UInt8 → Option α) :
    (decodeEach [] bytes).bind next = next ([], bytes) := rfl

theorem bind_decodeEach_cons {α : Type} (format : Varint) (formats : List Varint)
    (bytes : List UInt8) (next : List Nat × List UInt8 → Option α) :
    (decodeEach (format :: formats) bytes).bind next =
      (format.decode bytes).bind fun first ↦
        (decodeEach formats first.2).bind fun others ↦ next (first.1 :: others.1, others.2) := by
  cases hfirst : format.decode bytes with
  | none => simp [decodeEach, hfirst]
  | some first => cases hothers : decodeEach formats first.2 <;> simp [decodeEach, hfirst, hothers]

/-- Writes one number in each format. -/
def encodeEach (formats : List Varint) (numbers : List Nat) : List UInt8 :=
  (List.zipWith encode formats numbers).flatten

/-- Numbers that have a text each. -/
def Within (formats : List Varint) (numbers : List Nat) : Prop :=
  List.Forall₂ (fun format n ↦ n < format.limit) formats numbers

/-- Formats with room for a byte, which has no mark in the last allowed place. -/
def Usable (formats : List Varint) : Prop :=
  ∀ format ∈ formats, 0 < format.groups ∧ format.lastMax < 128

theorem isText_encode {format : Varint} (hgroups : 0 < format.groups) (hlast : format.lastMax < 128)
    {n : Nat} (hlimit : n < format.limit) :
    format.IsText (format.encode n) ∧ value (format.encode n) = n := by
  obtain ⟨groups, lastMax⟩ := format
  cases groups with
  | zero => exact absurd hgroups (Nat.lt_irrefl 0)
  | succ groups => exact isText_encodeGroups hlast hlimit

/-- Reading one number in each format succeeds exactly on bytes that start with a text of each. -/
theorem decodeEach_eq_some_iff {formats : List Varint} {bytes rest : List UInt8}
    {numbers : List Nat} :
    decodeEach formats bytes = some (numbers, rest) ↔
      ∃ texts, List.Forall₂ IsText formats texts ∧ bytes = texts.flatten ++ rest ∧
        texts.map value = numbers := by
  induction formats generalizing bytes numbers rest with
  | nil =>
    simp [decodeEach, eq_comm, and_comm]
  | cons format formats ih =>
    simp only [decodeEach, Option.bind_eq_bind, Option.bind_eq_some_iff, Option.pure_def,
      Option.some.injEq, Prod.exists, Prod.mk.injEq, decode_eq_some_iff, ih]
    constructor
    · rintro ⟨n, tail, ⟨text, htext, rfl, rfl⟩, others, behind, ⟨texts, htexts, rfl, rfl⟩, rfl, rfl⟩
      exact ⟨text :: texts, .cons htext htexts, by simp, rfl⟩
    · rintro ⟨_ | ⟨text, texts⟩, htexts, rfl, rfl⟩
      · cases htexts
      · obtain ⟨htext, htexts⟩ := List.forall₂_cons.mp htexts
        refine ⟨_, _, ⟨text, htext, ?_, rfl⟩, _, _, ⟨texts, htexts, rfl, rfl⟩, rfl, rfl⟩
        rw [List.flatten_cons, List.append_assoc]

theorem within_of_decodeEach {formats : List Varint} {bytes rest : List UInt8} {numbers : List Nat}
    (hread : decodeEach formats bytes = some (numbers, rest)) : Within formats numbers := by
  obtain ⟨texts, htexts, -, rfl⟩ := decodeEach_eq_some_iff.mp hread
  exact List.forall₂_map_right_iff.mpr (htexts.imp fun _ _ htext ↦ value_lt_limit htext)

/-- What is written is a text of each number. -/
theorem texts_encodeEach {formats : List Varint} {numbers : List Nat} (husable : Usable formats)
    (hwithin : Within formats numbers) :
    List.Forall₂ IsText formats (List.zipWith encode formats numbers) ∧
      (List.zipWith encode formats numbers).map value = numbers := by
  induction hwithin with
  | nil => exact ⟨.nil, rfl⟩
  | cons hlimit hwithin ih =>
    obtain ⟨⟨hgroups, hlast⟩, husable⟩ := List.forall_mem_cons.mp husable
    obtain ⟨htext, hvalue⟩ := isText_encode hgroups hlast hlimit
    obtain ⟨htexts, hvalues⟩ := ih husable
    exact ⟨.cons htext htexts, by rw [List.zipWith_cons_cons, List.map_cons, hvalue, hvalues]⟩

/-- Texts of the same numbers are no shorter than those that are written. -/
theorem length_encodeEach_le_flatten {formats : List Varint} {texts : List (List UInt8)}
    (htexts : List.Forall₂ IsText formats texts) :
    (encodeEach formats (texts.map value)).length ≤ texts.flatten.length := by
  induction htexts with
  | nil => exact Nat.le_refl 0
  | cons htext htexts ih =>
    simp only [encodeEach, List.map_cons, List.zipWith_cons_cons, List.flatten_cons,
      List.length_append] at ih ⊢
    exact Nat.add_le_add (length_encode_value_le htext) ih

theorem length_encodeEach_le (formats : List Varint) (numbers : List Nat) :
    (encodeEach formats numbers).length ≤ (formats.map groups).sum := by
  induction formats generalizing numbers with
  | nil => exact Nat.le_refl 0
  | cons format formats ih =>
    cases numbers with
    | nil => exact Nat.zero_le _
    | cons n numbers =>
      simp only [encodeEach, List.map_cons, List.zipWith_cons_cons, List.flatten_cons,
        List.length_append, List.sum_cons] at ih ⊢
      exact Nat.add_le_add (length_encodeGroups_le format.groups n) (ih numbers)

end Varint

namespace Config

/-! ### The eight fields -/

/-- The formats of the fields in order: 16 bits each, but 32 for the two button times. -/
def formats : List Varint :=
  [.bits16, .bits16, .bits16, .bits16, .bits16, .bits32, .bits32, .bits16]

/-- The fields in order. -/
def numbers (config : Config) : List Nat :=
  [config.recoveryMinutes.toNat, config.identificationMinutes.toNat, config.dfuMinutes.toNat,
    config.provisioningMinutes.toNat, config.mismatchSeconds.toNat,
    config.recoveryHoldMillis.toNat, config.debounceMillis.toNat, config.startupSeconds.toNat]

/-- The configuration with the given fields. -/
def ofNumbers : List Nat → Config
  | [recovery, identification, dfu, provisioning, mismatch, hold, debounce, startup] => {
      recoveryMinutes := .ofNat recovery
      identificationMinutes := .ofNat identification
      dfuMinutes := .ofNat dfu
      provisioningMinutes := .ofNat provisioning
      mismatchSeconds := .ofNat mismatch
      recoveryHoldMillis := .ofNat hold
      debounceMillis := .ofNat debounce
      startupSeconds := .ofNat startup }
  | _ => {}

theorem usable_formats : Varint.Usable formats := by
  simp [Varint.Usable, formats, Varint.bits16, Varint.bits32]

theorem ofNumbers_numbers (config : Config) : ofNumbers config.numbers = config := by
  simp [ofNumbers, numbers]

theorem within_numbers (config : Config) : Varint.Within formats config.numbers := by
  have hsmall (n : UInt16) : n.toNat < Varint.bits16.limit := n.toNat_lt
  have hlarge (n : UInt32) : n.toNat < Varint.bits32.limit := n.toNat_lt
  simp [Varint.Within, formats, numbers, hsmall, hlarge]

theorem numbers_ofNumbers {fields : List Nat} (hwithin : Varint.Within formats fields) :
    (ofNumbers fields).numbers = fields := by
  have hsmall {n : Nat} (hn : n < Varint.bits16.limit) : (UInt16.ofNat n).toNat = n :=
    UInt16.toNat_ofNat_of_lt' hn
  have hlarge {n : Nat} (hn : n < Varint.bits32.limit) : (UInt32.ofNat n).toNat = n :=
    UInt32.toNat_ofNat_of_lt' hn
  rcases hwithin with _ | ⟨hrecovery, _ | ⟨hidentification, _ | ⟨hdfu, _ | ⟨hprovisioning,
    _ | ⟨hmismatch, _ | ⟨hhold, _ | ⟨hdebounce, _ | ⟨hstartup, _ | _⟩⟩⟩⟩⟩⟩⟩⟩
  simp only [numbers, ofNumbers, hsmall hrecovery, hsmall hidentification, hsmall hdfu,
    hsmall hprovisioning, hsmall hmismatch, hlarge hhold, hlarge hdebounce, hsmall hstartup]

theorem encode_eq_encodeEach (config : Config) :
    config.encode = Varint.encodeEach formats config.numbers := by
  simp [encode, Varint.encodeEach, formats, numbers]

theorem decode_eq_decodeEach (bytes : List UInt8) :
    decode bytes = (Varint.decodeEach formats bytes).map fun (fields, rest) ↦
      (ofNumbers fields, rest) := by
  rw [Option.map_eq_bind]
  simp only [formats, Varint.bind_decodeEach_cons, Varint.bind_decodeEach_nil]
  rfl

/-- A configuration is read exactly from texts of its fields. -/
theorem decode_eq_some_iff {config : Config} {bytes rest : List UInt8} :
    decode bytes = some (config, rest) ↔
      ∃ texts, List.Forall₂ Varint.IsText formats texts ∧ bytes = texts.flatten ++ rest ∧
        texts.map Varint.value = config.numbers := by
  rw [← Varint.decodeEach_eq_some_iff, decode_eq_decodeEach, Option.map_eq_some_iff]
  constructor
  · rintro ⟨⟨fields, behind⟩, hread, heq⟩
    cases heq
    rw [numbers_ofNumbers (Varint.within_of_decodeEach hread), hread]
  · intro hread
    refine ⟨(config.numbers, rest), hread, ?_⟩
    simp only [ofNumbers_numbers]

theorem isSome_decode_iff {bytes : List UInt8} :
    (decode bytes).isSome = true ↔
      ∃ texts rest, List.Forall₂ Varint.IsText formats texts ∧ bytes = texts.flatten ++ rest := by
  constructor
  · intro hread
    obtain ⟨⟨config, rest⟩, hread⟩ := Option.isSome_iff_exists.mp hread
    obtain ⟨texts, htexts, hbytes, -⟩ := decode_eq_some_iff.mp hread
    exact ⟨texts, rest, htexts, hbytes⟩
  · rintro ⟨texts, rest, htexts, hbytes⟩
    rw [decode_eq_decodeEach, Option.isSome_map,
      Varint.decodeEach_eq_some_iff.mpr ⟨texts, htexts, hbytes, rfl⟩]
    rfl

theorem decode_encode (config : Config) (rest : List UInt8) :
    decode (config.encode ++ rest) = some (config, rest) := by
  obtain ⟨htexts, hvalues⟩ := Varint.texts_encodeEach usable_formats (within_numbers config)
  rw [encode_eq_encodeEach]
  exact decode_eq_some_iff.mpr ⟨_, htexts, rfl, hvalues⟩

theorem length_encode_le (config : Config) : config.encode.length ≤ 28 := by
  rw [encode_eq_encodeEach]
  exact Varint.length_encodeEach_le formats config.numbers

/-- No bytes that give a configuration are shorter than those that are written. -/
theorem length_encode_add_le {config : Config} {bytes rest : List UInt8}
    (hread : decode bytes = some (config, rest)) :
    config.encode.length + rest.length ≤ bytes.length := by
  obtain ⟨texts, htexts, rfl, hvalues⟩ := decode_eq_some_iff.mp hread
  rw [encode_eq_encodeEach, ← hvalues, List.length_append]
  exact Nat.add_le_add_right (Varint.length_encodeEach_le_flatten htexts) rest.length

/-- Whatever follows the bytes of a configuration, reading gives it back and leaves what follows.
Reading succeeds exactly on bytes that start with a text for each field, and gives their values. The
bytes written fit the entry that is read, and no bytes that give the same configuration are
shorter. -/
theorem reads_texts_writes_shortest :
    (∀ (config : Config) (rest : List UInt8),
      decode (config.encode ++ rest) = some (config, rest)) ∧
    (∀ (config : Config) (bytes rest : List UInt8), decode bytes = some (config, rest) ↔
      ∃ texts, List.Forall₂ Varint.IsText formats texts ∧ bytes = texts.flatten ++ rest ∧
        texts.map Varint.value = config.numbers) ∧
    (∀ bytes : List UInt8, (decode bytes).isSome = true ↔
      ∃ texts rest, List.Forall₂ Varint.IsText formats texts ∧ bytes = texts.flatten ++ rest) ∧
    (∀ config : Config, config.encode.length ≤ 28 ∧ 28 ≤ Store.configCapacity) ∧
    ∀ (config : Config) (bytes rest : List UInt8), decode bytes = some (config, rest) →
      config.encode.length + rest.length ≤ bytes.length :=
  ⟨decode_encode, fun _ _ _ ↦ decode_eq_some_iff, fun _ ↦ isSome_decode_iff,
    fun config ↦ ⟨length_encode_le config, by decide⟩, fun _ _ _ ↦ length_encode_add_le⟩

/-- The standard configuration with its first field drawn out by two groups of zeros, and a byte
behind it. -/
def paddedStandard : List UInt8 :=
  [129, 128, 0] ++ (encode {}).drop 1 ++ [7]

/-- The drawn out text is read like the shortest one, and the byte behind it is handed back. -/
theorem padded_standard_read :
    decode paddedStandard = some ({}, [7]) ∧
      (encode {}).length + [(7 : UInt8)].length ≤ paddedStandard.length := by
  obtain ⟨-, -, -, -, hshortest⟩ := reads_texts_writes_shortest
  have hread : decode paddedStandard = some ({}, [7]) := by decide
  exact ⟨hread, hshortest {} paddedStandard [7] hread⟩

end Config

end TagControl
