import Mathlib.Data.Nat.Digits.Defs
import TagControl.Config.Varint
/-!
The texts of a number. A text is a run of marked bytes and one without a mark, within the bound of
its format (`Varint.IsText`), and its value is read off with the marks removed (`Varint.value`).
Reading succeeds on the bytes that start with a text and on no others, and returns its value; what
is written is a text of the number, and no text of that number is shorter.
-/

set_option autoImplicit false

namespace TagControl.Varint

/-- A text in a format: marked bytes, then one without a mark. There are at most as many as the
format has groups, and the byte in the last allowed place is bounded. -/
structure IsText (format : Varint) (text : List UInt8) : Prop where
  length_le : text.length ≤ format.groups
  ends : ∃ front last, text = front ++ [last] ∧ (∀ byte ∈ front, 128 ≤ byte) ∧ last < 128 ∧
    (text.length = format.groups → last ≤ format.lastMax)

/-- The number that a text stands for, the lowest seven bits first. -/
def value (text : List UInt8) : Nat :=
  Nat.ofDigits 128 (text.map fun byte ↦ byte.toNat % 128)

/-- The first number that has no text in a format. -/
def limit (format : Varint) : Nat :=
  (format.lastMax.toNat + 1) * 128 ^ (format.groups - 1)

variable {groups : Nat} {lastMax : UInt8}

theorem value_cons (byte : UInt8) (rest : List UInt8) :
    value (byte :: rest) = byte.toNat % 128 + 128 * value rest := by
  simp [value, Nat.ofDigits_cons]

theorem value_singleton {byte : UInt8} (hbyte : byte < 128) : value [byte] = byte.toNat := by
  have hnat : byte.toNat < 128 := hbyte
  simp [value, Nat.mod_eq_of_lt hnat]

theorem not_isText_nil (format : Varint) : ¬format.IsText [] := by
  rintro ⟨-, front, last, htext, -⟩
  simp at htext

/-- A text is one byte without a mark, or a marked byte and a text with one group less. -/
theorem isText_cons_iff {byte : UInt8} {rest : List UInt8} :
    IsText ⟨groups + 1, lastMax⟩ (byte :: rest) ↔
      (byte < 128 ∧ rest = [] ∧ (groups = 0 → byte ≤ lastMax)) ∨
        (128 ≤ byte ∧ IsText ⟨groups, lastMax⟩ rest) := by
  constructor
  · rintro ⟨hlength, front, last, htext, hmarked, hlast, hbound⟩
    cases front with
    | nil =>
      obtain ⟨rfl, rfl⟩ : byte = last ∧ rest = [] := by simpa using htext
      exact .inl ⟨hlast, rfl, fun hgroups ↦ hbound (by simp [hgroups])⟩
    | cons first front =>
      obtain ⟨rfl, rfl⟩ : byte = first ∧ rest = front ++ [last] := by simpa using htext
      rw [List.forall_mem_cons] at hmarked
      refine .inr ⟨hmarked.1, by simpa using hlength, front, last, rfl, hmarked.2, hlast, ?_⟩
      exact fun hfull ↦ hbound (by simpa using hfull)
  · rintro (⟨hlast, rfl, hbound⟩ | ⟨hmarked, hlength, front, last, rfl, hfront, hlast, hbound⟩)
    · exact ⟨by simp, [], byte, rfl, by simp, hlast, fun hfull ↦ hbound (by simpa using hfull.symm)⟩
    · refine ⟨by simpa using hlength, byte :: front, last, rfl, ?_, hlast, ?_⟩
      · exact List.forall_mem_cons.mpr ⟨hmarked, hfront⟩
      · exact fun hfull ↦ hbound (by simpa using hfull)

/-! ### Reading -/

theorem decodeGroups_last {byte : UInt8} (hbyte : byte < 128) (rest : List UInt8) :
    decodeGroups lastMax (groups + 1) (byte :: rest) =
      if groups = 0 ∧ lastMax < byte then none else some (byte.toNat, rest) := by
  rw [decodeGroups, if_pos hbyte]

theorem decodeGroups_marked {byte : UInt8} (hbyte : 128 ≤ byte) (rest : List UInt8) :
    decodeGroups lastMax (groups + 1) (byte :: rest) =
      (decodeGroups lastMax groups rest).map fun (high, rest) ↦
        (byte.toNat - 128 + 128 * high, rest) := by
  rw [decodeGroups, if_neg (UInt8.not_lt.mpr hbyte)]

theorem value_cons_marked {byte : UInt8} (hbyte : 128 ≤ byte) (rest : List UInt8) :
    value (byte :: rest) = byte.toNat - 128 + 128 * value rest := by
  have hlow : 128 ≤ byte.toNat := hbyte
  have hhigh : byte.toNat < 256 := byte.toNat_lt
  rw [value_cons]
  omega

/-- A text is read whole, whatever follows it. -/
theorem decode_text {format : Varint} {text : List UInt8} (htext : format.IsText text)
    (rest : List UInt8) : format.decode (text ++ rest) = some (value text, rest) := by
  obtain ⟨groups, lastMax⟩ := format
  change decodeGroups lastMax groups (text ++ rest) = _
  induction groups generalizing text with
  | zero =>
    obtain rfl : text = [] := List.length_eq_zero_iff.mp (Nat.le_zero.mp htext.length_le)
    exact absurd htext (not_isText_nil _)
  | succ groups ih =>
    cases text with
    | nil => exact absurd htext (not_isText_nil _)
    | cons byte tail =>
      rcases isText_cons_iff.mp htext with ⟨hlast, rfl, hbound⟩ | ⟨hmarked, htail⟩
      · have hfits : ¬(groups = 0 ∧ lastMax < byte) :=
          fun hover ↦ UInt8.not_lt.mpr (hbound hover.1) hover.2
        rw [List.cons_append, decodeGroups_last hlast, if_neg hfits, value_singleton hlast]
        rfl
      · rw [List.cons_append, decodeGroups_marked hmarked, ih htail, value_cons_marked hmarked]
        rfl

/-- What is read is a text. -/
theorem text_of_decode {format : Varint} {bytes rest : List UInt8} {n : Nat}
    (hread : format.decode bytes = some (n, rest)) :
    ∃ text, format.IsText text ∧ bytes = text ++ rest ∧ value text = n := by
  obtain ⟨groups, lastMax⟩ := format
  change decodeGroups lastMax groups bytes = _ at hread
  induction groups generalizing bytes n with
  | zero => simp [decodeGroups] at hread
  | succ groups ih =>
    cases bytes with
    | nil => simp [decodeGroups] at hread
    | cons byte tail =>
      rcases UInt8.lt_or_le byte 128 with hlast | hmarked
      · rw [decodeGroups_last hlast] at hread
        split at hread
        · cases hread
        · next hfits =>
          cases hread
          refine ⟨[byte], isText_cons_iff.mpr (.inl ⟨hlast, rfl, fun hgroups ↦ ?_⟩), rfl,
            value_singleton hlast⟩
          exact UInt8.not_lt.mp fun hover ↦ hfits ⟨hgroups, hover⟩
      · rw [decodeGroups_marked hmarked, Option.map_eq_some_iff] at hread
        obtain ⟨⟨high, behind⟩, htail, heq⟩ := hread
        cases heq
        obtain ⟨text, htext, rfl, rfl⟩ := ih htail
        exact ⟨byte :: text, isText_cons_iff.mpr (.inr ⟨hmarked, htext⟩), rfl,
          value_cons_marked hmarked text⟩

/-- Reading succeeds exactly on the bytes that start with a text, and returns its value and the
bytes behind it. -/
theorem decode_eq_some_iff {format : Varint} {bytes rest : List UInt8} {n : Nat} :
    format.decode bytes = some (n, rest) ↔
      ∃ text, format.IsText text ∧ bytes = text ++ rest ∧ value text = n := by
  refine ⟨text_of_decode, ?_⟩
  rintro ⟨text, htext, rfl, rfl⟩
  exact decode_text htext rest

/-- A text stands for a number below the limit of its format. -/
theorem value_lt_limit {format : Varint} {text : List UInt8} (htext : format.IsText text) :
    value text < format.limit := by
  obtain ⟨groups, lastMax⟩ := format
  change value text < (lastMax.toNat + 1) * 128 ^ (groups - 1)
  induction groups generalizing text with
  | zero =>
    obtain rfl : text = [] := List.length_eq_zero_iff.mp (Nat.le_zero.mp htext.length_le)
    exact absurd htext (not_isText_nil _)
  | succ groups ih =>
    cases text with
    | nil => exact absurd htext (not_isText_nil _)
    | cons byte tail =>
      rcases isText_cons_iff.mp htext with ⟨hlast, rfl, hbound⟩ | ⟨hmarked, htail⟩
      · rw [value_singleton hlast, Nat.add_sub_cancel]
        cases groups with
        | zero =>
          have hmax : byte.toNat ≤ lastMax.toNat := hbound rfl
          omega
        | succ groups =>
          have hnat : byte.toNat < 128 := hlast
          have hpow : 1 ≤ (lastMax.toNat + 1) * 128 ^ groups :=
            Nat.mul_pos (by omega) (by positivity)
          rw [Nat.pow_succ, ← Nat.mul_assoc]
          omega
      · cases groups with
        | zero =>
          obtain rfl : tail = [] := List.length_eq_zero_iff.mp (Nat.le_zero.mp htail.length_le)
          exact absurd htail (not_isText_nil _)
        | succ groups =>
          have hhigh : value tail < (lastMax.toNat + 1) * 128 ^ groups := ih htail
          rw [value_cons, Nat.add_sub_cancel, Nat.pow_succ, ← Nat.mul_assoc]
          omega

/-! ### Writing -/

theorem encodeGroups_small {n : Nat} (hsmall : n < 128) :
    encodeGroups (groups + 1) n = [UInt8.ofNat n] := by
  rw [encodeGroups, if_pos hsmall]

theorem encodeGroups_large {n : Nat} (hlarge : 128 ≤ n) :
    encodeGroups (groups + 1) n = UInt8.ofNat (n % 128 + 128) :: encodeGroups groups (n / 128) := by
  rw [encodeGroups, if_neg (Nat.not_lt.mpr hlarge)]

theorem toNat_ofNat_small {n : Nat} (hsmall : n < 128) : (UInt8.ofNat n).toNat = n := by
  rw [UInt8.toNat_ofNat']
  omega

theorem toNat_ofNat_marked (n : Nat) : (UInt8.ofNat (n % 128 + 128)).toNat = n % 128 + 128 := by
  rw [UInt8.toNat_ofNat']
  omega

theorem isText_small {n : Nat} (hsmall : n < 128) (hbound : groups = 0 → n ≤ lastMax.toNat) :
    IsText ⟨groups + 1, lastMax⟩ [UInt8.ofNat n] ∧ value [UInt8.ofNat n] = n := by
  have hbyte : (UInt8.ofNat n).toNat = n := toNat_ofNat_small hsmall
  have hbelow : UInt8.ofNat n < 128 := by
    rw [UInt8.lt_iff_toNat_lt, hbyte]
    exact hsmall
  refine ⟨isText_cons_iff.mpr (.inl ⟨hbelow, rfl, fun hgroups ↦ ?_⟩), ?_⟩
  · rw [UInt8.le_iff_toNat_le, hbyte]
    exact hbound hgroups
  · rw [value_singleton hbelow, hbyte]

/-- What is written is a text of the number, if the number is below the limit. -/
theorem isText_encodeGroups (hlast : lastMax < 128) {n : Nat}
    (hlimit : n < (lastMax.toNat + 1) * 128 ^ groups) :
    IsText ⟨groups + 1, lastMax⟩ (encodeGroups (groups + 1) n) ∧
      value (encodeGroups (groups + 1) n) = n := by
  induction groups generalizing n with
  | zero =>
    have hmax : lastMax.toNat < 128 := hlast
    have hsmall : n < 128 := by omega
    rw [encodeGroups_small hsmall]
    exact isText_small hsmall fun _ ↦ by omega
  | succ groups ih =>
    rcases Nat.lt_or_ge n 128 with hsmall | hlarge
    · rw [encodeGroups_small hsmall]
      exact isText_small hsmall nofun
    · have hhigh : n / 128 < (lastMax.toNat + 1) * 128 ^ groups := by
        rw [Nat.div_lt_iff_lt_mul (by decide), Nat.mul_assoc, ← Nat.pow_succ]
        exact hlimit
      have hmarked : 128 ≤ UInt8.ofNat (n % 128 + 128) := by
        rw [UInt8.le_iff_toNat_le, toNat_ofNat_marked]
        exact Nat.le_add_left 128 (n % 128)
      obtain ⟨htext, hvalue⟩ := ih hhigh
      rw [encodeGroups_large hlarge, value_cons_marked hmarked, hvalue, toNat_ofNat_marked]
      exact ⟨isText_cons_iff.mpr (.inr ⟨hmarked, htext⟩), by omega⟩

/-- No text of a number is shorter than the one that is written. -/
theorem length_encode_value_le {format : Varint} {text : List UInt8} (htext : format.IsText text) :
    (format.encode (value text)).length ≤ text.length := by
  obtain ⟨groups, lastMax⟩ := format
  change (encodeGroups groups (value text)).length ≤ text.length
  induction groups generalizing text with
  | zero => exact Nat.zero_le _
  | succ groups ih =>
    cases text with
    | nil => exact absurd htext (not_isText_nil _)
    | cons byte tail =>
      rcases Nat.lt_or_ge (value (byte :: tail)) 128 with hsmall | hlarge
      · rw [encodeGroups_small hsmall]
        simp
      · rcases isText_cons_iff.mp htext with ⟨hlast, rfl, -⟩ | ⟨hmarked, htail⟩
        · rw [value_singleton hlast] at hlarge
          exact absurd hlarge (Nat.not_le.mpr hlast)
        · have hhigh : value (byte :: tail) / 128 = value tail := by
            rw [value_cons]
            omega
          rw [encodeGroups_large hlarge, hhigh, List.length_cons, List.length_cons]
          exact Nat.succ_le_succ (ih htail)

theorem length_encodeGroups_le (groups n : Nat) : (encodeGroups groups n).length ≤ groups := by
  induction groups generalizing n with
  | zero => exact Nat.le_refl 0
  | succ groups ih =>
    rcases Nat.lt_or_ge n 128 with hsmall | hlarge
    · rw [encodeGroups_small hsmall]
      simp
    · rw [encodeGroups_large hlarge, List.length_cons]
      exact Nat.succ_le_succ (ih (n / 128))

end TagControl.Varint
