import Mathlib.Data.List.TakeWhile
import TagControl.Proofs.ProvisionedMark
import TagControl.Store.Settings
/-!
What a factory reset leaves in the store. It erases seven entries one after the other
(`KeyRing.material`) and stops at the first that cannot be deleted: the entries before it are gone,
it and those after it are kept, and no other entry has changed, the configuration included. A reset
that stopped is completed by the next one that goes through, and the store is then the same as if
the first had gone through.
-/

set_option autoImplicit false

namespace TagControl

/-- The configuration is read from its own entry alone. -/
theorem Store.loadConfig_congr {first second : Store}
    (hentry : first.get? (entryName configSpace configKey) =
      second.get? (entryName configSpace configKey)) : first.loadConfig = second.loadConfig := by
  unfold loadConfig read
  rw [hentry]

namespace KeyRing

/-- The account keys and what the beacon was provisioned with, in the order of their erasure. -/
def material : List (String × String) :=
  [("fp_keys", "acc_key_0"), ("fp_keys", "acc_key_1"), ("fp_keys", "acc_key_2"),
    ("fp_keys", "acc_key_3"), ("fp_keys", "acc_key_4"), ("beacon", "eik"), ("beacon", "prov")]

theorem erased_eq_material : erased = material := by
  decide +kernel

theorem nodup_nameOf_material : (material.map Store.nameOf).Nodup := by
  rw [← erased_eq_material]
  exact nodup_nameOf_erased

theorem configName_not_mem_material :
    Store.entryName Store.configSpace Store.configKey ∉ material.map Store.nameOf := by
  decide +kernel

theorem slot_mem_material {slot : Nat} (hslot : slot ∈ slots) :
    (keySpace, slotKey slot) ∈ material := by
  rw [← erased_eq_material]
  exact List.mem_append_left _ (List.mem_map_of_mem hslot)

/-! ### One reset -/

/-- The entries that a reset erases: those before the first that cannot be deleted. -/
def gone (faulty : FaultyStore) : List (String × String) :=
  material.takeWhile (faulty.allows .delete)

theorem store_factoryReset (faulty : FaultyStore) :
    (factoryReset.run faulty).state = { faulty with store := faulty.store.deleteEach (gone faulty) } := by
  rw [state_factoryReset, erased_eq_material]
  rfl

theorem get?_factoryReset (faulty : FaultyStore) (name : String) :
    (factoryReset.run faulty).state.store.get? name =
      if name ∈ (gone faulty).map Store.nameOf then none else faulty.store.get? name := by
  rw [store_factoryReset, Store.get?_deleteEach]

theorem gone_subset (faulty : FaultyStore) : gone faulty ⊆ material :=
  (List.takeWhile_prefix _).subset

/-- Every other entry keeps its data. -/
theorem get?_factoryReset_other (faulty : FaultyStore) {name : String}
    (hother : name ∉ material.map Store.nameOf) :
    (factoryReset.run faulty).state.store.get? name = faulty.store.get? name := by
  have hkept : name ∉ (gone faulty).map Store.nameOf :=
    fun hmem ↦ hother (List.map_subset _ (gone_subset faulty) hmem)
  rw [get?_factoryReset, if_neg hkept]

theorem gone_of_allowed {faulty : FaultyStore}
    (hallowed : ∀ entry ∈ material, faulty.allows .delete entry = true) :
    gone faulty = material :=
  List.takeWhile_eq_self_iff.mpr hallowed

theorem result_factoryReset_eq_ok {faulty : FaultyStore} :
    (factoryReset.run faulty).result = .ok () ↔
      ∀ entry ∈ material, faulty.allows .delete entry = true := by
  simp only [FaultyStore.allows_delete]
  rw [result_factoryReset, erased_eq_material, ← List.findSome?_eq_none_iff]
  cases material.findSome? faulty.deletionFault? <;> simp

/-- A reset fails with the fault of the first entry that cannot be deleted. -/
theorem stuck_of_result_eq_error {faulty : FaultyStore} {reason : DeviceError}
    (hresult : (factoryReset.run faulty).result = .error reason) :
    ∃ erased stuck kept fault, material = erased ++ stuck :: kept ∧ gone faulty = erased ∧
      faulty.deletionFault? stuck = some fault ∧ reason = .ofStore fault := by
  rw [result_factoryReset, erased_eq_material] at hresult
  cases hfound : material.findSome? faulty.deletionFault? with
  | none =>
    rw [hfound] at hresult
    cases hresult
  | some fault =>
    rw [hfound] at hresult
    cases hresult
    obtain ⟨erased, stuck, kept, hsplit, hfault, hfree⟩ := List.findSome?_eq_some_iff.mp hfound
    refine ⟨erased, stuck, kept, fault, hsplit, ?_, hfault, rfl⟩
    have hstuck : ¬faulty.allows .delete stuck = true := by
      rw [FaultyStore.allows_delete, hfault]
      exact Option.some_ne_none fault
    rw [gone, hsplit, List.takeWhile_append_of_pos
      fun entry hentry ↦ FaultyStore.allows_delete.mpr (hfree entry hentry),
      List.takeWhile_cons_of_neg hstuck, List.append_nil]

/-! ### The keys afterwards -/

/-- Slots without an entry hold no key, if they can be read. -/
theorem anyHoldsKey_of_empty {faulty : FaultyStore} {slots : List Nat}
    (hread : ∀ slot ∈ slots, faulty.allows .read (keySpace, slotKey slot) = true)
    (hempty : ∀ slot ∈ slots, faulty.store.get? (Store.nameOf (keySpace, slotKey slot)) = none) :
    (anyHoldsKey faulty slots).value = .ok false := by
  induction slots with
  | nil => rfl
  | cons slot rest ih =>
    rw [List.forall_mem_cons] at hread hempty
    have hfault : faulty.fault? ⟨.read, keySpace, slotKey slot⟩ = none :=
      Option.isNone_iff_eq_none.mp hread.1
    have hentry : faulty.store.get? (Store.entryName keySpace (slotKey slot)) = none := hempty.1
    have hslot : slotHoldsKey faulty slot = pure (.ok false) := by
      simp [slotHoldsKey, FaultyStore.read, Store.read, hfault, hentry]
    rw [anyHoldsKey, hslot, pure_bind]
    exact ih hread.2 hempty.2

/-! ### Resets that fail and resets that go through -/

/-- A reset erases all of the account keys and the beacon's material, or exactly the entries before
the first that cannot be deleted, and nothing else: every other entry keeps its data, and so does
the configuration. When it goes through, no key is found. When it has stopped, another one that is
not hindered leaves the store that a single unhindered reset leaves. -/
theorem reset_erases_all_or_prefix (faulty : FaultyStore) :
    let out := factoryReset.run faulty
    let before := faulty.store
    let after := out.state.store
    (out.result = .ok () ↔ ∀ entry ∈ material, faulty.allows .delete entry = true) ∧
    (out.result = .ok () →
      (∀ entry ∈ material, after.get? (Store.nameOf entry) = none) ∧
      ((∀ slot ∈ slots, faulty.allows .read (keySpace, slotKey slot) = true) →
        (hasKey out.state).value = .ok false)) ∧
    (∀ reason, out.result = .error reason → ∃ erased stuck kept fault,
      material = erased ++ stuck :: kept ∧
      (∀ entry ∈ erased, faulty.allows .delete entry = true) ∧
      faulty.fault? ⟨.delete, stuck.1, stuck.2⟩ = some fault ∧ reason = .ofStore fault ∧
      (∀ entry ∈ erased, after.get? (Store.nameOf entry) = none) ∧
      ∀ entry ∈ stuck :: kept,
        after.get? (Store.nameOf entry) = before.get? (Store.nameOf entry)) ∧
    (∀ name, name ∉ material.map Store.nameOf → after.get? name = before.get? name) ∧
    after.loadConfig = before.loadConfig ∧
    ∀ cleared : FaultyStore, cleared.store = after →
      (∀ entry ∈ material, cleared.allows .delete entry = true) →
      (factoryReset.run cleared).result = .ok () ∧
        (factoryReset.run cleared).state.store =
          (factoryReset.run { store := before }).state.store := by
  intro out before after
  refine ⟨result_factoryReset_eq_ok, fun hdone ↦ ?_, fun reason hfailed ↦ ?_,
    fun name hother ↦ get?_factoryReset_other faulty hother,
    Store.loadConfig_congr (get?_factoryReset_other faulty configName_not_mem_material),
    fun cleared hstore hallowed ↦ ⟨result_factoryReset_eq_ok.mpr hallowed, ?_⟩⟩
  · have hgone : gone faulty = material := gone_of_allowed (result_factoryReset_eq_ok.mp hdone)
    have hbare : ∀ entry ∈ material, after.get? (Store.nameOf entry) = none := by
      intro entry hentry
      rw [get?_factoryReset, hgone, if_pos (List.mem_map_of_mem hentry)]
    refine ⟨hbare, fun hread ↦ ?_⟩
    refine anyHoldsKey_of_empty (fun slot hslot ↦ ?_) fun slot hslot ↦
      hbare _ (slot_mem_material hslot)
    rw [store_factoryReset]
    exact hread slot hslot
  · obtain ⟨erased, stuck, kept, fault, hsplit, hgone, hfault, hreason⟩ :=
      stuck_of_result_eq_error hfailed
    refine ⟨erased, stuck, kept, fault, hsplit, fun entry hentry ↦ ?_, hfault, hreason,
      fun entry hentry ↦ ?_, fun entry hentry ↦ ?_⟩
    · rw [← hgone] at hentry
      exact List.mem_takeWhile_imp hentry
    · rw [get?_factoryReset, hgone, if_pos (List.mem_map_of_mem hentry)]
    · -- the seven names differ, so no entry erased has the name of one that is kept
      have hnodup := nodup_nameOf_material
      rw [hsplit, List.map_append] at hnodup
      have hkept : Store.nameOf entry ∉ erased.map Store.nameOf := fun hmem ↦
        List.disjoint_of_nodup_append hnodup hmem (List.mem_map_of_mem hentry)
      rw [get?_factoryReset, hgone, if_neg hkept]
  · have hfree : ∀ entry ∈ material,
        ({ store := before } : FaultyStore).allows .delete entry = true := fun _ _ ↦ rfl
    rw [store_factoryReset, store_factoryReset, gone_of_allowed hallowed, gone_of_allowed hfree,
      hstore]
    change ((factoryReset.run faulty).state.store).deleteEach material = before.deleteEach material
    rw [store_factoryReset]
    exact Store.deleteEach_deleteEach before (gone_subset faulty)

/-- Two keys are stored, and the second cannot be deleted. -/
def secondKeyStuck : FaultyStore :=
  (used [.addKey (List.replicate 16 1), .addKey (List.replicate 16 2)]).setFault
    ⟨.delete, keySpace, slotKey 1⟩ (some .io)

/-- A reset stops at the second key, and the next one completes it. -/
theorem stopped_reset_is_completed :
    let stopped := factoryReset.run secondKeyStuck
    stopped.result = .error .io ∧
      (factoryReset.run { store := stopped.state.store }).result = .ok () ∧
      (factoryReset.run { store := stopped.state.store }).state.store =
        (factoryReset.run { store := secondKeyStuck.store }).state.store := by
  intro stopped
  obtain ⟨-, -, -, -, -, hagain⟩ := reset_erases_all_or_prefix secondKeyStuck
  obtain ⟨hdone, hstore⟩ := hagain { store := stopped.state.store } rfl fun _ _ ↦ rfl
  exact ⟨by decide +kernel, hdone, hstore⟩

end KeyRing

end TagControl
