import Mathlib.Data.List.Induction
import Mathlib.Data.List.Nodup
import TagControl.Proofs.KeyRing
/-!
The mark of provisioning and the identity key. The key is written before the mark, so no write that
fails leaves a mark without a key. But it is also erased before the mark: a reset in which only the
deletion of the mark fails strands a mark without a key (`KeyRing.Strands`), and nothing else does.
Such a mark stays until the key is written again or a reset goes through.
-/

set_option autoImplicit false

namespace TagControl.KeyRing

/-! ### The entries that a reset erases -/

/-- The entries that a reset erases before the mark, in order. -/
def erasedBeforeMark : List (String × String) :=
  slots.map (fun slot ↦ (keySpace, slotKey slot)) ++ [(beaconSpace, identityKey)]

theorem nodup_nameOf_erased : (erased.map Store.nameOf).Nodup := by
  decide +kernel

/-- The entries of the slots have other names than those of the beacon. -/
theorem slotName_ne {slot : Nat} (hslot : slot ∈ slots) :
    Store.entryName beaconSpace identityKey ≠ Store.entryName keySpace (slotKey slot) ∧
      Store.entryName beaconSpace provisionedKey ≠ Store.entryName keySpace (slotKey slot) := by
  have hall : ∀ slot ∈ slots,
      Store.entryName beaconSpace identityKey ≠ Store.entryName keySpace (slotKey slot) ∧
        Store.entryName beaconSpace provisionedKey ≠ Store.entryName keySpace (slotKey slot) := by
    decide +kernel
  exact hall slot hslot

theorem identityName_ne :
    Store.entryName beaconSpace identityKey ≠ Store.entryName beaconSpace provisionedKey := by
  decide +kernel

theorem mem_takeWhile_append_cons {α : Type} (before after : List α) {entry : α}
    {allowed : α → Bool} (hentry : entry ∉ before) :
    entry ∈ (before ++ entry :: after).takeWhile allowed ↔
      before.all allowed = true ∧ allowed entry = true := by
  induction before with
  | nil => cases hallowed : allowed entry <;> simp [hallowed]
  | cons first rest ih =>
    rw [List.mem_cons, not_or] at hentry
    obtain ⟨hfirst, hrest⟩ := hentry
    cases hallowed : allowed first with
    | false => simp [hallowed]
    | true => simpa [hallowed, hfirst] using ih hrest

/-- A reset erases the identity key unless the deletion of the key or of a slot fails. -/
theorem identity_mem_takeWhile {allowed : String × String → Bool} :
    (beaconSpace, identityKey) ∈ erased.takeWhile allowed ↔
      erasedBeforeMark.all allowed = true := by
  rw [erasedBeforeMark, List.all_append, Bool.and_eq_true, List.all_cons, List.all_nil,
    Bool.and_true]
  exact mem_takeWhile_append_cons (slots.map fun slot ↦ (keySpace, slotKey slot))
    [(beaconSpace, provisionedKey)] (by decide +kernel)

/-- A reset erases the mark last. -/
theorem mark_mem_takeWhile {allowed : String × String → Bool} :
    (beaconSpace, provisionedKey) ∈ erased.takeWhile allowed ↔
      erasedBeforeMark.all allowed = true ∧ allowed (beaconSpace, provisionedKey) = true :=
  mem_takeWhile_append_cons erasedBeforeMark [] (by decide +kernel)

/-- An entry that a reset is to erase is gone exactly if it was not there or its turn came. -/
theorem contains_factoryReset {faulty : FaultyStore} {space key : String}
    (hentry : (space, key) ∈ erased) :
    (factoryReset.run faulty).state.contains space key = true ↔
      faulty.contains space key = true ∧
        (space, key) ∉ erased.takeWhile (faulty.allows .delete) := by
  have hnamed : Store.entryName space key ∈
        (erased.takeWhile (faulty.allows .delete)).map Store.nameOf ↔
      (space, key) ∈ erased.takeWhile (faulty.allows .delete) := by
    refine ⟨fun hname ↦ ?_, fun hmem ↦ List.mem_map.mpr ⟨_, hmem, rfl⟩⟩
    obtain ⟨other, hother, hname⟩ := List.mem_map.mp hname
    have herased : other ∈ erased := (List.takeWhile_prefix _).subset hother
    rwa [← List.inj_on_of_nodup_map nodup_nameOf_erased herased hentry hname]
  rw [state_factoryReset]
  simp only [FaultyStore.contains, Store.contains, Store.get?_deleteEach, hnamed]
  split
  · next hmem => simp [hmem]
  · next hmem => simp [hmem]

/-! ### One use -/

/-- What is done with the stored keys, or with the store underneath: an access is made to fail or to
succeed again. -/
inductive Use where
  | addKey (key : List UInt8)
  | storeIdentity (identity : List UInt8)
  | askKey
  | factoryReset
  | setFault (access : Access) (fault : Option StoreError)

/-- The store that a use leaves. Asking for a key changes nothing. -/
def Use.apply (faulty : FaultyStore) : Use → FaultyStore
  | addKey key => ((KeyRing.addKey key).run faulty).state
  | storeIdentity identity => ((KeyRing.storeIdentity identity).run faulty).state
  | askKey => faulty
  | factoryReset => (KeyRing.factoryReset.run faulty).state
  | setFault access fault => faulty.setFault access fault

/-- The beacon is marked as provisioned but has no identity key. -/
def Alone (faulty : FaultyStore) : Prop :=
  isProvisioned faulty = true ∧ faulty.contains beaconSpace identityKey = false

/-- A reset of a marked beacon that erases everything but the mark, whose deletion fails. -/
def Strands (faulty : FaultyStore) (use : Use) : Prop :=
  use = .factoryReset ∧ isProvisioned faulty = true ∧
    erasedBeforeMark.all (faulty.allows .delete) = true ∧
    faulty.allows .delete (beaconSpace, provisionedKey) = false

/-- The identity key is written, or a reset goes through. -/
def Mends (faulty : FaultyStore) : Use → Prop
  | .storeIdentity _ => faulty.allows .write (beaconSpace, identityKey) = true
  | .factoryReset => erased.all (faulty.allows .delete) = true
  | _ => False

theorem alone_addKey_iff (key : List UInt8) (faulty : FaultyStore) :
    Alone ((addKey key).run faulty).state ↔ Alone faulty := by
  rcases state_addKey key faulty with hkept | ⟨slot, hslot, hwritten⟩
  · rw [hkept]
  · obtain ⟨hidentity, hmark⟩ := slotName_ne hslot
    rw [hwritten]
    simp [Alone, isProvisioned, FaultyStore.contains, Store.contains, Store.write, hidentity, hmark]

theorem alone_storeIdentity_iff (identity : List UInt8) (faulty : FaultyStore) :
    Alone ((storeIdentity identity).run faulty).state ↔
      Alone faulty ∧ ¬Mends faulty (.storeIdentity identity) := by
  rw [state_storeIdentity]
  by_cases hkey : faulty.allows .write (beaconSpace, identityKey) = true
  · rw [if_pos hkey]
    split <;>
      simp [Alone, Mends, FaultyStore.contains, Store.contains, Store.write, identityName_ne, hkey]
  · rw [if_neg hkey]
    simp [Mends, hkey]

theorem alone_factoryReset_iff (faulty : FaultyStore) :
    Alone (factoryReset.run faulty).state ↔
      Strands faulty .factoryReset ∨ (Alone faulty ∧ ¬Mends faulty .factoryReset) := by
  have hmark : isProvisioned (factoryReset.run faulty).state = true ↔ _ :=
    contains_factoryReset (by decide +kernel)
  have hidentity : (factoryReset.run faulty).state.contains beaconSpace identityKey = true ↔ _ :=
    contains_factoryReset (by decide +kernel)
  have hall : erased.all (faulty.allows .delete) =
      (erasedBeforeMark.all (faulty.allows .delete) &&
        faulty.allows .delete (beaconSpace, provisionedKey)) := by
    rw [show erased = erasedBeforeMark ++ [(beaconSpace, provisionedKey)] from rfl,
      List.all_append, List.all_cons, List.all_nil, Bool.and_true]
  rw [mark_mem_takeWhile] at hmark
  rw [identity_mem_takeWhile] at hidentity
  rw [Alone, ← Bool.not_eq_true, hmark, hidentity, Strands, Alone, Mends, hall]
  change (isProvisioned faulty = true ∧ _) ∧ _ ↔ _
  -- all that counts is what was stored and which of the deletions fail
  cases isProvisioned faulty <;> cases faulty.contains beaconSpace identityKey <;>
    cases erasedBeforeMark.all (faulty.allows .delete) <;>
    cases faulty.allows .delete (beaconSpace, provisionedKey) <;> simp

/-- A use leaves a mark alone if it strands one, or if it finds one alone and does not mend that. -/
theorem alone_apply_iff (faulty : FaultyStore) (use : Use) :
    Alone (use.apply faulty) ↔ Strands faulty use ∨ (Alone faulty ∧ ¬Mends faulty use) := by
  cases use with
  | addKey key => simpa [Use.apply, Strands, Mends] using alone_addKey_iff key faulty
  | storeIdentity identity => simpa [Use.apply, Strands] using alone_storeIdentity_iff identity faulty
  | askKey => simp [Use.apply, Strands, Mends]
  | factoryReset => exact alone_factoryReset_iff faulty
  | setFault access fault =>
    simp [Use.apply, Strands, Mends, Alone, isProvisioned, FaultyStore.contains]

/-! ### Any uses -/

/-- The store that uses leave, made in order from an empty store without faults. -/
def used (uses : List Use) : FaultyStore :=
  uses.foldl Use.apply {}

/-- However the stored keys are used and whatever accesses fail, the mark of provisioning is never
stored without the identity key until a reset strands it, and then it is. -/
theorem mark_with_identity_iff_not_stranded (uses : List Use) :
    (∀ earlier, earlier <+: uses → isProvisioned (used earlier) = true →
      (used earlier).contains beaconSpace identityKey = true) ↔
    ∀ earlier use, earlier ++ [use] <+: uses → ¬Strands (used earlier) use := by
  have happlied : ∀ earlier use, used (earlier ++ [use]) = use.apply (used earlier) := by
    intro earlier use
    rw [used, List.foldl_append]
    rfl
  constructor
  · intro hsound earlier use hprefix hstrands
    have halone : Alone (used (earlier ++ [use])) := by
      rw [happlied, alone_apply_iff]
      exact .inl hstrands
    have hidentity := hsound _ hprefix halone.1
    rw [halone.2] at hidentity
    cases hidentity
  · intro hnever earlier hprefix hmarked
    by_contra hmissing
    have halone : Alone (used earlier) := ⟨hmarked, by simpa using hmissing⟩
    clear hmarked hmissing
    induction earlier using List.reverseRecOn with
    | nil => cases halone.1
    | append_singleton earlier use ih =>
      rw [happlied, alone_apply_iff] at halone
      rcases halone with hstrands | ⟨halone, -⟩
      · exact hnever earlier use hprefix hstrands
      · exact ih ((List.prefix_append _ _).trans hprefix) halone

/-- The identity key is stored, the deletion of the mark is made to fail, and a reset erases the key
and leaves the mark. -/
theorem reset_strands_mark :
    Alone (used [.storeIdentity (List.replicate 32 1),
      .setFault ⟨.delete, beaconSpace, provisionedKey⟩ (some .io), .factoryReset]) :=
  ⟨by decide +kernel, by decide +kernel⟩

end TagControl.KeyRing
