import Mathlib.Data.List.Perm.Subperm
import TagControl.Proofs.ProvisionedMark
/-!
The slots of the account keys. A key goes into the lowest slot without an entry or nowhere, and no
slot that has an entry is written again, so the slots that are given out go up and no key is lost.
Looking for a key goes through the slots upwards: it finds one if a slot holds a key
(`KeyRing.HoldsKey`) and no slot below cannot be read (`KeyRing.Unreadable`), and fails if a slot
cannot be read and no slot below holds a key.
-/

set_option autoImplicit false

namespace TagControl

/-- A failing store is never taken for a refusal. -/
theorem DeviceError.ofStore_cases (fault : StoreError) :
    DeviceError.ofStore fault = .io ∨ DeviceError.ofStore fault = .unavailable := by
  cases fault with
  | notFound => exact .inr rfl
  | full => exact .inl rfl
  | io => exact .inl rfl
  | tooLong => exact .inl rfl

namespace KeyRing

variable {faulty : FaultyStore} {slot : Nat}

/-! ### The entry of a slot -/

def slotName (slot : Nat) : String :=
  Store.entryName keySpace (slotKey slot)

def slotData? (faulty : FaultyStore) (slot : Nat) : Option (List UInt8) :=
  faulty.store.get? (slotName slot)

theorem slotName_inj {other : Nat} (hslot : slot ∈ slots) (hother : other ∈ slots)
    (hname : slotName slot = slotName other) : slot = other := by
  have hall : ∀ slot ∈ slots, ∀ other ∈ slots, slotName slot = slotName other → slot = other := by
    decide +kernel
  exact hall slot hslot other hother hname

/-- A slot without an entry, all slots below having one. -/
def IsLowestFree (faulty : FaultyStore) (slot : Nat) : Prop :=
  slot ∈ slots ∧ slotData? faulty slot = none ∧ ∀ lower < slot, slotData? faulty lower ≠ none

theorem contains_slot : faulty.contains keySpace (slotKey slot) = (slotData? faulty slot).isSome :=
  rfl

theorem freeSlot?_eq_some_iff : freeSlot? faulty = some slot ↔ IsLowestFree faulty slot := by
  rw [freeSlot?, slots, List.find?_range_eq_some, IsLowestFree, slots]
  simp only [contains_slot, Bool.not_eq_true', Bool.not_not, Option.isSome_eq_false_iff,
    Option.isNone_iff_eq_none, ← Option.isSome_iff_ne_none]
  tauto

theorem freeSlot?_eq_none_iff :
    freeSlot? faulty = none ↔ ∀ slot ∈ slots, slotData? faulty slot ≠ none := by
  rw [freeSlot?, List.find?_eq_none]
  simp [contains_slot, ← Option.isSome_iff_ne_none]

theorem IsLowestFree.unique {other : Nat} (hslot : IsLowestFree faulty slot)
    (hother : IsLowestFree faulty other) : other = slot :=
  Option.some.inj ((freeSlot?_eq_some_iff.mpr hother).symm.trans (freeSlot?_eq_some_iff.mpr hslot))

/-! ### Storing a key -/

/-- A key is refused without a free slot, fails as the write to the lowest free slot does, or
becomes the entry of that slot. -/
theorem addKey_cases (key : List UInt8) (faulty : FaultyStore) :
    let out := (addKey key).run faulty
    ((∀ slot ∈ slots, slotData? faulty slot ≠ none) ∧ out.result = .error .rejected ∧
      out.state = faulty) ∨
    ∃ slot, IsLowestFree faulty slot ∧
      ((∃ fault, faulty.fault? ⟨.write, keySpace, slotKey slot⟩ = some fault ∧
        out.result = .error (.ofStore fault) ∧ out.state = faulty) ∨
      (faulty.fault? ⟨.write, keySpace, slotKey slot⟩ = none ∧ out.result = .ok slot ∧
        out.state = { faulty with store := faulty.store.insert (slotName slot) key })) := by
  intro out
  cases hfree : freeSlot? faulty with
  | none =>
    have hout : out = ⟨.error .rejected, faulty, []⟩ := run_addKey_of_full hfree key
    exact .inl ⟨freeSlot?_eq_none_iff.mp hfree, congrArg Outcome.result hout,
      congrArg Outcome.state hout⟩
  | some slot =>
    refine .inr ⟨slot, freeSlot?_eq_some_iff.mp hfree, ?_⟩
    cases hfault : faulty.fault? ⟨.write, keySpace, slotKey slot⟩ with
    | some fault =>
      have hout : out = ⟨.error (.ofStore fault), faulty, []⟩ :=
        run_addKey_of_fault hfree hfault key
      exact .inl ⟨fault, rfl, congrArg Outcome.result hout, congrArg Outcome.state hout⟩
    | none => exact .inr ⟨rfl, addKey_of_free hfree hfault key⟩

theorem addKey_eq_ok_iff {key : List UInt8} : ((addKey key).run faulty).result = .ok slot ↔
    IsLowestFree faulty slot ∧ faulty.fault? ⟨.write, keySpace, slotKey slot⟩ = none := by
  rcases addKey_cases key faulty with ⟨hfull, hresult, -⟩ | ⟨free, hfree, hdone⟩
  · rw [hresult]
    simp only [reduceCtorEq, false_iff]
    exact fun hstored ↦ hfull slot hstored.1.1 hstored.1.2.1
  · rcases hdone with ⟨fault, hfault, hresult, -⟩ | ⟨hfault, hresult, -⟩
    · rw [hresult]
      simp only [reduceCtorEq, false_iff]
      rintro ⟨hslot, hnone⟩
      rw [hfree.unique hslot, hfault] at hnone
      cases hnone
    · rw [hresult, Except.ok.injEq]
      constructor
      · rintro rfl
        exact ⟨hfree, hfault⟩
      · exact fun hstored ↦ (hfree.unique hstored.1).symm

theorem addKey_eq_rejected_iff {key : List UInt8} :
    ((addKey key).run faulty).result = .error .rejected ↔
      ∀ slot ∈ slots, slotData? faulty slot ≠ none := by
  rcases addKey_cases key faulty with ⟨hfull, hresult, -⟩ | ⟨free, hfree, hdone⟩
  · exact iff_of_true hresult hfull
  · refine iff_of_false (fun hrejected ↦ ?_) fun hfull ↦ hfull free hfree.1 hfree.2.1
    rcases hdone with ⟨fault, -, hresult, -⟩ | ⟨-, hresult, -⟩
    · rw [hresult, Except.error.injEq] at hrejected
      rcases DeviceError.ofStore_cases fault with hio | hunavailable
      · rw [hio] at hrejected
        cases hrejected
      · rw [hunavailable] at hrejected
        cases hrejected
    · rw [hresult] at hrejected
      cases hrejected

/-- A key that is not stored leaves everything as it was, and it was refused or its write failed. -/
theorem addKey_of_error {key : List UInt8} {reason : DeviceError}
    (hfailed : ((addKey key).run faulty).result = .error reason) :
    ((addKey key).run faulty).state = faulty ∧
      (reason = .rejected ∨ ∃ slot fault, IsLowestFree faulty slot ∧
        faulty.fault? ⟨.write, keySpace, slotKey slot⟩ = some fault ∧
        reason = .ofStore fault ∧ (reason = .io ∨ reason = .unavailable)) := by
  rcases addKey_cases key faulty with ⟨-, hresult, hstate⟩ | ⟨free, hfree, hdone⟩
  · rw [hresult] at hfailed
    cases hfailed
    exact ⟨hstate, .inl rfl⟩
  · rcases hdone with ⟨fault, hfault, hresult, hstate⟩ | ⟨-, hresult, -⟩
    · rw [hresult] at hfailed
      cases hfailed
      exact ⟨hstate, .inr ⟨free, fault, hfree, hfault, rfl, DeviceError.ofStore_cases fault⟩⟩
    · rw [hresult] at hfailed
      cases hfailed

/-- A key that is stored becomes the entry of its slot. -/
theorem state_addKey_of_ok {key : List UInt8}
    (hstored : ((addKey key).run faulty).result = .ok slot) :
    ((addKey key).run faulty).state =
      { faulty with store := faulty.store.insert (slotName slot) key } := by
  obtain ⟨hlowest, hnone⟩ := addKey_eq_ok_iff.mp hstored
  exact (addKey_of_free (freeSlot?_eq_some_iff.mpr hlowest) hnone key).2

theorem slotData?_addKey_of_ok {key : List UInt8}
    (hstored : ((addKey key).run faulty).result = .ok slot) :
    slotData? ((addKey key).run faulty).state slot = some key := by
  rw [state_addKey_of_ok hstored, slotData?, Store.get?_insert, if_pos rfl]

/-! ### Looking for a key -/

/-- A slot that is read as exactly as many bytes as a key has. -/
def HoldsKey (faulty : FaultyStore) (slot : Nat) : Prop :=
  ∃ data, faulty.read keySpace (slotKey slot) keyLength = .ok data ∧ data.length = keyLength

/-- A slot whose reading fails, but not because it has no entry or too long a one. -/
def Unreadable (faulty : FaultyStore) (slot : Nat) : Prop :=
  ∃ fault, faulty.read keySpace (slotKey slot) keyLength = .error fault ∧
    fault ≠ .notFound ∧ fault ≠ .tooLong

/-- A slot that neither holds a key nor fails to be read, so that the search goes on above it. -/
def Passes (faulty : FaultyStore) (slot : Nat) : Prop :=
  ¬HoldsKey faulty slot ∧ ¬Unreadable faulty slot

theorem HoldsKey.readable (hholds : HoldsKey faulty slot) : ¬Unreadable faulty slot := by
  rintro ⟨fault, hfault, -⟩
  obtain ⟨data, hdata, -⟩ := hholds
  rw [hdata] at hfault
  cases hfault

/-- What a slot is taken for. -/
theorem slotHoldsKey_cases (faulty : FaultyStore) (slot : Nat) :
    (HoldsKey faulty slot ∧ (slotHoldsKey faulty slot).value = .ok true) ∨
    (Unreadable faulty slot ∧ ∃ reason, (slotHoldsKey faulty slot).value = .error reason) ∨
    (Passes faulty slot ∧ (slotHoldsKey faulty slot).value = .ok false) := by
  unfold slotHoldsKey Passes HoldsKey Unreadable
  cases hread : faulty.read keySpace (slotKey slot) keyLength with
  | ok data =>
    by_cases hlength : data.length = keyLength
    · exact .inl ⟨⟨data, rfl, hlength⟩, by simp [hlength]⟩
    · exact .inr (.inr ⟨by simp [hlength], by simp [hlength]⟩)
  | error fault => cases fault <;> simp

theorem value_anyHoldsKey_cons (faulty : FaultyStore) (slot : Nat) (rest : List Nat) :
    (anyHoldsKey faulty (slot :: rest)).value =
      match (slotHoldsKey faulty slot).value with
      | .ok false => (anyHoldsKey faulty rest).value
      | answer => answer := by
  rw [anyHoldsKey, Traced.value_bind]
  cases (slotHoldsKey faulty slot).value with
  | error reason => rfl
  | ok holds => cases holds <;> rfl

/-- The lowest slot that holds a key or cannot be read decides. -/
theorem anyHoldsKey_cases (faulty : FaultyStore) {slots : List Nat}
    (hsorted : slots.Pairwise (· < ·)) :
    (∃ slot ∈ slots, HoldsKey faulty slot ∧ (∀ lower ∈ slots, lower < slot → Passes faulty lower) ∧
      (anyHoldsKey faulty slots).value = .ok true) ∨
    (∃ slot ∈ slots, Unreadable faulty slot ∧
      (∀ lower ∈ slots, lower < slot → Passes faulty lower) ∧
      ∃ reason, (anyHoldsKey faulty slots).value = .error reason) ∨
    ((∀ slot ∈ slots, Passes faulty slot) ∧ (anyHoldsKey faulty slots).value = .ok false) := by
  induction slots with
  | nil => exact .inr (.inr ⟨nofun, rfl⟩)
  | cons first rest ih =>
    obtain ⟨hfirst, hsorted⟩ := List.pairwise_cons.mp hsorted
    have hlowest : ∀ lower ∈ first :: rest, lower < first → Passes faulty lower := by
      rintro lower hlower hlt
      rcases List.mem_cons.mp hlower with rfl | hrest
      · exact absurd hlt (Nat.lt_irrefl lower)
      · exact absurd (hfirst lower hrest) (Nat.lt_asymm hlt)
    rw [value_anyHoldsKey_cons]
    rcases slotHoldsKey_cases faulty first with ⟨hholds, hvalue⟩ | ⟨hfault, reason, hvalue⟩ |
      ⟨hpasses, hvalue⟩
    · rw [hvalue]
      exact .inl ⟨first, List.mem_cons_self, hholds, hlowest, rfl⟩
    · rw [hvalue]
      exact .inr (.inl ⟨first, List.mem_cons_self, hfault, hlowest, reason, rfl⟩)
    · -- the first slot passes, so what is said of the others holds of all
      have hall {P : Nat → Prop} (hrest : ∀ lower ∈ rest, P lower → Passes faulty lower) :
          ∀ lower ∈ first :: rest, P lower → Passes faulty lower :=
        List.forall_mem_cons.mpr ⟨fun _ ↦ hpasses, hrest⟩
      rw [hvalue]
      rcases ih hsorted with ⟨slot, hslot, hholds, hbelow, hrest⟩ |
        ⟨slot, hslot, hfault, hbelow, hrest⟩ | ⟨hbelow, hrest⟩
      · exact .inl ⟨slot, List.mem_cons_of_mem _ hslot, hholds, hall hbelow, hrest⟩
      · exact .inr (.inl ⟨slot, List.mem_cons_of_mem _ hslot, hfault, hall hbelow, hrest⟩)
      · exact .inr (.inr ⟨List.forall_mem_cons.mpr ⟨hpasses, hbelow⟩, hrest⟩)

theorem pairwise_slots : slots.Pairwise (· < ·) :=
  List.pairwise_lt_range

/-- A key is found exactly if a slot holds one and every slot below can be read. -/
theorem hasKey_eq_true_iff : (hasKey faulty).value = .ok true ↔
    ∃ slot ∈ slots, HoldsKey faulty slot ∧
      ∀ lower ∈ slots, lower < slot → ¬Unreadable faulty lower := by
  rw [hasKey]
  rcases anyHoldsKey_cases faulty pairwise_slots with ⟨slot, hslot, hholds, hbelow, hvalue⟩ |
    ⟨slot, hslot, hfault, hbelow, reason, hvalue⟩ | ⟨hall, hvalue⟩
  · exact iff_of_true hvalue
      ⟨slot, hslot, hholds, fun lower hlower hlt ↦ (hbelow lower hlower hlt).2⟩
  · rw [hvalue]
    simp only [reduceCtorEq, false_iff]
    rintro ⟨other, hother, hholds, hreadable⟩
    rcases Nat.lt_trichotomy slot other with hlt | rfl | hlt
    · exact hreadable slot hslot hlt hfault
    · exact hholds.readable hfault
    · exact (hbelow other hother hlt).1 hholds
  · rw [hvalue]
    simp only [Except.ok.injEq, Bool.false_eq_true, false_iff]
    rintro ⟨other, hother, hholds, -⟩
    exact (hall other hother).1 hholds

/-- Looking for a key fails exactly if a slot cannot be read and no slot below holds a key. -/
theorem hasKey_eq_error_iff : (∃ reason, (hasKey faulty).value = .error reason) ↔
    ∃ slot ∈ slots, Unreadable faulty slot ∧
      ∀ lower ∈ slots, lower < slot → ¬HoldsKey faulty lower := by
  rw [hasKey]
  rcases anyHoldsKey_cases faulty pairwise_slots with ⟨slot, hslot, hholds, hbelow, hvalue⟩ |
    ⟨slot, hslot, hfault, hbelow, hreason⟩ | ⟨hall, hvalue⟩
  · rw [hvalue]
    simp only [reduceCtorEq, exists_false, false_iff]
    rintro ⟨other, hother, hfault, hempty⟩
    rcases Nat.lt_trichotomy slot other with hlt | rfl | hlt
    · exact hempty slot hslot hlt hholds
    · exact hholds.readable hfault
    · exact (hbelow other hother hlt).2 hfault
  · exact iff_of_true hreason
      ⟨slot, hslot, hfault, fun lower hlower hlt ↦ (hbelow lower hlower hlt).1⟩
  · rw [hvalue]
    simp only [reduceCtorEq, exists_false, false_iff]
    rintro ⟨other, hother, hfault, -⟩
    exact (hall other hother).2 hfault

/-! ### Any uses but a reset -/

/-- A use that erases nothing; a key that it stores is as long as a key is. -/
def Use.Keeps : Use → Prop
  | .addKey key => key.length = keyLength
  | .factoryReset => False
  | _ => True

/-- The store that uses leave, made in order. -/
def usedFrom (faulty : FaultyStore) (uses : List Use) : FaultyStore :=
  uses.foldl Use.apply faulty

/-- The slot that a use gives to a key. -/
def Use.slot? (faulty : FaultyStore) : Use → Option Nat
  | .addKey key => ((KeyRing.addKey key).run faulty).result.toOption
  | _ => none

/-- The slots that uses give to keys, in order. -/
def granted : FaultyStore → List Use → List Nat
  | _, [] => []
  | faulty, use :: rest => (use.slot? faulty).toList ++ granted (use.apply faulty) rest

/-- The entry of a slot stays as it is. -/
theorem slotData?_apply {use : Use} (hkeeps : use.Keeps) (hslot : slot ∈ slots)
    {data : List UInt8} (hentry : slotData? faulty slot = some data) :
    slotData? (use.apply faulty) slot = some data := by
  cases use with
  | addKey key =>
    rcases addKey_cases key faulty with ⟨-, -, hstate⟩ | ⟨free, hfree, hdone⟩
    · rw [Use.apply, hstate]
      exact hentry
    · rcases hdone with ⟨fault, -, -, hstate⟩ | ⟨-, -, hstate⟩
      · rw [Use.apply, hstate]
        exact hentry
      · have hname : slotName slot ≠ slotName free := by
          intro hname
          rw [slotName_inj hslot hfree.1 hname, hfree.2.1] at hentry
          cases hentry
        rw [Use.apply, hstate, slotData?, Store.get?_insert, if_neg hname]
        exact hentry
  | storeIdentity identity =>
    obtain ⟨hidentity, hmark⟩ := slotName_ne hslot
    rw [Use.apply, state_storeIdentity]
    split
    · split
      · simp only [slotData?, slotName, Store.write, Store.get?_insert, if_neg hmark.symm,
          if_neg hidentity.symm]
        exact hentry
      · simp only [slotData?, slotName, Store.write, Store.get?_insert, if_neg hidentity.symm]
        exact hentry
    · exact hentry
  | askKey => exact hentry
  | factoryReset => exact hkeeps.elim
  | setFault access fault =>
    rw [Use.apply, slotData?, FaultyStore.store_setFault]
    exact hentry

variable {uses : List Use}

theorem slotData?_usedFrom (hkeep : ∀ use ∈ uses, use.Keeps) (hslot : slot ∈ slots)
    {data : List UInt8} (hentry : slotData? faulty slot = some data) :
    slotData? (usedFrom faulty uses) slot = some data := by
  induction uses generalizing faulty with
  | nil => exact hentry
  | cons use rest ih =>
    obtain ⟨hkeeps, hrest⟩ := List.forall_mem_cons.mp hkeep
    exact ih hrest (slotData?_apply hkeeps hslot hentry)

theorem Use.slot?_eq_some {use : Use} (hgiven : use.slot? faulty = some slot) :
    ∃ key, use = .addKey key ∧ ((KeyRing.addKey key).run faulty).result = .ok slot := by
  cases use with
  | addKey key =>
    refine ⟨key, rfl, ?_⟩
    rw [Use.slot?] at hgiven
    cases hresult : ((KeyRing.addKey key).run faulty).result with
    | error reason =>
      rw [hresult] at hgiven
      cases hgiven
    | ok given =>
      rw [hresult] at hgiven
      cases hgiven
      rfl
  | _ => cases hgiven

/-- A slot that is given to a key had no entry, and then has the key. -/
theorem slotData?_of_mem_granted (hkeep : ∀ use ∈ uses, use.Keeps)
    (hgranted : slot ∈ granted faulty uses) : slot ∈ slots ∧ slotData? faulty slot = none ∧
      ∃ key, key.length = keyLength ∧ slotData? (usedFrom faulty uses) slot = some key := by
  induction uses generalizing faulty with
  | nil => cases hgranted
  | cons use rest ih =>
    obtain ⟨hkeeps, hrest⟩ := List.forall_mem_cons.mp hkeep
    rw [granted, List.mem_append, Option.mem_toList] at hgranted
    rcases hgranted with hgiven | hlater
    · obtain ⟨key, rfl, hstored⟩ := Use.slot?_eq_some hgiven
      obtain ⟨hslot, hnone, -⟩ := (addKey_eq_ok_iff.mp hstored).1
      exact ⟨hslot, hnone, key, hkeeps,
        slotData?_usedFrom hrest hslot (slotData?_addKey_of_ok hstored)⟩
    · obtain ⟨hslot, hnone, hkey⟩ := ih hrest hlater
      refine ⟨hslot, ?_, hkey⟩
      by_contra hpresent
      obtain ⟨data, hentry⟩ := Option.ne_none_iff_exists'.mp hpresent
      rw [slotData?_apply hkeeps hslot hentry] at hnone
      cases hnone

/-- The slots that are given to keys go up. -/
theorem pairwise_granted (hkeep : ∀ use ∈ uses, use.Keeps) :
    (granted faulty uses).Pairwise (· < ·) := by
  induction uses generalizing faulty with
  | nil => exact .nil
  | cons use rest ih =>
    obtain ⟨hkeeps, hrest⟩ := List.forall_mem_cons.mp hkeep
    rw [granted, List.pairwise_append]
    refine ⟨?_, ih hrest, fun given hgiven later hlater ↦ ?_⟩
    · cases use.slot? faulty <;> simp
    · obtain ⟨key, rfl, hstored⟩ := Use.slot?_eq_some (Option.mem_toList.mp hgiven)
      obtain ⟨⟨hslot, -, hbelow⟩, -⟩ := addKey_eq_ok_iff.mp hstored
      obtain ⟨hlaterSlot, hnone, -⟩ := slotData?_of_mem_granted hrest hlater
      rcases Nat.lt_trichotomy given later with hlt | rfl | hlt
      · exact hlt
      · -- the slot just written has an entry
        rw [Use.apply, slotData?_addKey_of_ok hstored] at hnone
        cases hnone
      · -- a slot below the one given had an entry already
        obtain ⟨data, hentry⟩ := Option.ne_none_iff_exists'.mp (hbelow later hlt)
        rw [slotData?_apply hkeeps hlaterSlot hentry] at hnone
        cases hnone

theorem length_granted_le (hkeep : ∀ use ∈ uses, use.Keeps) :
    (granted faulty uses).length ≤ slots.length := by
  have hnodup : (granted faulty uses).Nodup := (pairwise_granted hkeep).imp Nat.ne_of_lt
  exact (List.subperm_of_subset hnodup
    fun slot hslot ↦ (slotData?_of_mem_granted hkeep hslot).1).length_le

/-! ### Reading without faults -/

theorem read_slot_of_allowed (hread : faulty.allows .read (keySpace, slotKey slot) = true) :
    faulty.read keySpace (slotKey slot) keyLength =
      faulty.store.read keySpace (slotKey slot) keyLength := by
  have hfault : faulty.fault? ⟨.read, keySpace, slotKey slot⟩ = none :=
    Option.isNone_iff_eq_none.mp hread
  rw [FaultyStore.read, hfault]

theorem not_unreadable_of_allowed (hread : faulty.allows .read (keySpace, slotKey slot) = true) :
    ¬Unreadable faulty slot := by
  rintro ⟨fault, hfault, habsent, hlong⟩
  rw [read_slot_of_allowed hread, Store.read] at hfault
  split at hfault
  · cases hfault
    exact habsent rfl
  · split at hfault
    · cases hfault
      exact hlong rfl
    · cases hfault

theorem holdsKey_of_entry (hread : faulty.allows .read (keySpace, slotKey slot) = true)
    {key : List UInt8} (hlength : key.length = keyLength)
    (hentry : slotData? faulty slot = some key) : HoldsKey faulty slot := by
  refine ⟨key, ?_, hlength⟩
  rw [read_slot_of_allowed hread, Store.read_of_get?_eq_some hentry, if_neg (by omega)]

/-- Once a key has been stored, one is found whenever the slots can be read. -/
theorem hasKey_of_granted (hkeep : ∀ use ∈ uses, use.Keeps) (hgranted : granted faulty uses ≠ [])
    (hread : ∀ slot ∈ slots,
      (usedFrom faulty uses).allows .read (keySpace, slotKey slot) = true) :
    (hasKey (usedFrom faulty uses)).value = .ok true := by
  obtain ⟨slot, hmem⟩ := List.exists_mem_of_ne_nil _ hgranted
  obtain ⟨hslot, -, key, hlength, hentry⟩ := slotData?_of_mem_granted hkeep hmem
  exact hasKey_eq_true_iff.mpr ⟨slot, hslot, holdsKey_of_entry (hread slot hslot) hlength hentry,
    fun lower hlower _ ↦ not_unreadable_of_allowed (hread lower hlower)⟩

/-! ### The slots over any uses -/

/-- Whatever the slots held at first, however keys and identities are then stored and asked for, and
whatever accesses fail: a key goes into the lowest slot without an entry and changes no other entry,
or it is refused because every slot has one, or its write fails, and then nothing changes. An entry
of a slot is never overwritten, and the slots given to keys go up, so there are at most five. Keys
are looked for upwards, and once one has been stored it is found whenever the slots can be read. -/
theorem slots_lose_nothing (faulty : FaultyStore) {uses : List Use}
    (hkeep : ∀ use ∈ uses, use.Keeps) :
    let after := usedFrom faulty uses
    (∀ key, let out := (addKey key).run after
      (∀ slot, out.result = .ok slot ↔
        IsLowestFree after slot ∧ after.fault? ⟨.write, keySpace, slotKey slot⟩ = none) ∧
      (∀ slot, out.result = .ok slot → out.state.faults = after.faults ∧
        slotData? out.state slot = some key ∧
        ∀ name, name ≠ slotName slot → out.state.store.get? name = after.store.get? name) ∧
      (out.result = .error .rejected ↔ ∀ slot ∈ slots, slotData? after slot ≠ none) ∧
      ∀ reason, out.result = .error reason → out.state = after ∧
        (reason = .rejected ∨ ∃ slot fault, IsLowestFree after slot ∧
          after.fault? ⟨.write, keySpace, slotKey slot⟩ = some fault ∧
          reason = .ofStore fault ∧ (reason = .io ∨ reason = .unavailable))) ∧
    (∀ slot ∈ slots, ∀ data, slotData? faulty slot = some data →
      slotData? after slot = some data) ∧
    (granted faulty uses).Pairwise (· < ·) ∧ (granted faulty uses).length ≤ 5 ∧
    ((hasKey after).value = .ok true ↔ ∃ slot ∈ slots, HoldsKey after slot ∧
      ∀ lower ∈ slots, lower < slot → ¬Unreadable after lower) ∧
    ((∃ reason, (hasKey after).value = .error reason) ↔ ∃ slot ∈ slots, Unreadable after slot ∧
      ∀ lower ∈ slots, lower < slot → ¬HoldsKey after lower) ∧
    (granted faulty uses ≠ [] →
      (∀ slot ∈ slots, after.allows .read (keySpace, slotKey slot) = true) →
      (hasKey after).value = .ok true) := by
  intro after
  refine ⟨fun key ↦ ⟨fun slot ↦ addKey_eq_ok_iff, fun slot hstored ↦ ?_, addKey_eq_rejected_iff,
      fun reason ↦ addKey_of_error⟩,
    fun slot hslot data ↦ slotData?_usedFrom hkeep hslot, pairwise_granted hkeep,
    length_granted_le hkeep, hasKey_eq_true_iff, hasKey_eq_error_iff, hasKey_of_granted hkeep⟩
  refine ⟨?_, slotData?_addKey_of_ok hstored, fun name hname ↦ ?_⟩
  · rw [state_addKey_of_ok hstored]
  · rw [state_addKey_of_ok hstored, Store.get?_insert, if_neg hname]

/-- The lowest slot has an entry that is no key, and a key cannot be written to the next. -/
def crowded : FaultyStore :=
  { store := Store.write {} keySpace (slotKey 0) [1, 2, 3] : FaultyStore }.setFault
    ⟨.write, keySpace, slotKey 1⟩ (some .io)

/-- A first key is not written; then the writes succeed, and two keys are stored. -/
def crowdedUses : List Use :=
  [.addKey (List.replicate 16 7), .askKey, .setFault ⟨.write, keySpace, slotKey 1⟩ none,
    .addKey (List.replicate 16 8), .storeIdentity (List.replicate 32 9),
    .addKey (List.replicate 16 10)]

/-- The free slots are given out in order, past the lowest one, and what is in that one stays. -/
theorem crowded_slots_filled :
    granted crowded crowdedUses = [1, 2] ∧ (granted crowded crowdedUses).Pairwise (· < ·) ∧
      slotData? (usedFrom crowded crowdedUses) 0 = some [1, 2, 3] ∧
      (hasKey (usedFrom crowded crowdedUses)).value = .ok true := by
  have hkeep : ∀ use ∈ crowdedUses, use.Keeps := by
    simp [crowdedUses, Use.Keeps, keyLength]
  have hgranted : granted crowded crowdedUses = [1, 2] := by decide +kernel
  obtain ⟨-, hkept, hascend, -, -, -, hfound⟩ := slots_lose_nothing crowded hkeep
  exact ⟨hgranted, hascend, hkept 0 (by decide) _ (by decide +kernel),
    hfound (by rw [hgranted]; decide) (by decide +kernel)⟩

end KeyRing

end TagControl
