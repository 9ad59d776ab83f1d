import TagControl.KeyRing
/-!
What the operations on the stored keys leave behind when accesses to the store fail. A write or a
deletion does its work unless a fault is set for it, and then it does nothing. Deletions made in
order stop at the first that fails: the entries before it are gone, and no other entry has changed.
-/

set_option autoImplicit false

namespace TagControl

/-- The name of an entry that is given by its namespace and key. -/
def Store.nameOf (entry : String × String) : String :=
  entryName entry.1 entry.2

/-- Deletes entries in order. -/
def Store.deleteEach (store : Store) (entries : List (String × String)) : Store :=
  entries.foldl (fun store entry ↦ store.delete entry.1 entry.2) store

@[simp] theorem Store.get?_deleteEach (store : Store) (entries : List (String × String))
    (name : String) : (store.deleteEach entries).get? name =
      if name ∈ entries.map nameOf then none else store.get? name := by
  induction entries generalizing store with
  | nil => simp [deleteEach]
  | cons entry rest ih =>
    change ((store.delete entry.1 entry.2).deleteEach rest).get? name = _
    rw [ih]
    change (if _ then none else (store.erase (nameOf entry)).get? name) = _
    by_cases hname : name = nameOf entry
    · simp [hname]
    · have hrest : name ∈ (entry :: rest).map nameOf ↔ name ∈ rest.map nameOf := by simp [hname]
      simp only [hrest, get?_erase, if_neg hname]

theorem Store.entries_deleteEach (store : Store) (entries : List (String × String)) :
    (store.deleteEach entries).entries =
      store.entries.filter fun stored ↦ stored.1 ∉ entries.map nameOf := by
  induction entries generalizing store with
  | nil => exact (List.filter_eq_self.mpr fun stored _ ↦ by simp).symm
  | cons entry rest ih =>
    change ((store.delete entry.1 entry.2).deleteEach rest).entries = _
    rw [ih]
    change (store.entries.filter fun stored ↦ stored.1 ≠ nameOf entry).filter _ = _
    rw [List.filter_filter]
    refine List.filter_congr fun stored _ ↦ ?_
    rw [← Bool.decide_and, decide_eq_decide, List.map_cons, List.mem_cons, not_or, and_comm]

/-- What has been deleted need not be deleted again. -/
theorem Store.deleteEach_deleteEach (store : Store) {first second : List (String × String)}
    (hsubset : first ⊆ second) :
    (store.deleteEach first).deleteEach second = store.deleteEach second := by
  have hentries : ((store.deleteEach first).deleteEach second).entries =
      (store.deleteEach second).entries := by
    rw [entries_deleteEach, entries_deleteEach, entries_deleteEach, List.filter_filter]
    refine List.filter_congr fun stored _ ↦ ?_
    have hnames : stored.1 ∈ first.map nameOf → stored.1 ∈ second.map nameOf :=
      fun hmem ↦ List.map_subset nameOf hsubset hmem
    by_cases hsecond : stored.1 ∈ second.map nameOf
    · simp [hsecond]
    · have hfirst : stored.1 ∉ first.map nameOf := fun hmem ↦ hsecond (hnames hmem)
      simp only [hfirst, hsecond, not_false_eq_true, decide_true, Bool.and_self]
  exact congrArg Store.mk hentries

namespace FaultyStore

/-- The fault set for the deletion of an entry. -/
def deletionFault? (faulty : FaultyStore) (entry : String × String) : Option StoreError :=
  faulty.fault? ⟨.delete, entry.1, entry.2⟩

/-- Whether no fault is set for an access to an entry. -/
def allows (faulty : FaultyStore) (kind : AccessKind) (entry : String × String) : Bool :=
  (faulty.fault? ⟨kind, entry.1, entry.2⟩).isNone

theorem allows_delete {faulty : FaultyStore} {entry : String × String} :
    faulty.allows .delete entry = true ↔ faulty.deletionFault? entry = none := by
  simp [allows, deletionFault?]

@[simp] theorem store_setFault (faulty : FaultyStore) (access : Access)
    (fault : Option StoreError) : (faulty.setFault access fault).store = faulty.store := by
  cases fault <;> rfl

end FaultyStore

namespace KeyRing

theorem run_write (space key : String) (data : List UInt8) (faulty : FaultyStore) :
    (write space key data).run faulty =
      match faulty.fault? ⟨.write, space, key⟩ with
      | none => ⟨.ok (), { faulty with store := faulty.store.write space key data }, []⟩
      | some reason => ⟨.error (.ofStore reason), faulty, []⟩ := by
  cases hfault : faulty.fault? ⟨.write, space, key⟩ <;>
    simp [write, FaultyStore.write, hfault]

theorem run_delete (space key : String) (faulty : FaultyStore) :
    (delete space key).run faulty =
      match faulty.fault? ⟨.delete, space, key⟩ with
      | none => ⟨.ok (), { faulty with store := faulty.store.delete space key }, []⟩
      | some reason => ⟨.error (.ofStore reason), faulty, []⟩ := by
  cases hfault : faulty.fault? ⟨.delete, space, key⟩ <;>
    simp [delete, FaultyStore.delete, hfault]

theorem run_addKey_of_full {faulty : FaultyStore} (hfull : freeSlot? faulty = none)
    (key : List UInt8) : (addKey key).run faulty = ⟨.error .rejected, faulty, []⟩ := by
  simp [addKey, hfull]

theorem run_addKey_of_fault {faulty : FaultyStore} {slot : Nat} {reason : StoreError}
    (hfree : freeSlot? faulty = some slot)
    (hfault : faulty.fault? ⟨.write, keySpace, slotKey slot⟩ = some reason) (key : List UInt8) :
    (addKey key).run faulty = ⟨.error (.ofStore reason), faulty, []⟩ := by
  simp [addKey, hfree, run_write, hfault]

theorem addKey_of_free {faulty : FaultyStore} {slot : Nat} (hfree : freeSlot? faulty = some slot)
    (hfault : faulty.fault? ⟨.write, keySpace, slotKey slot⟩ = none) (key : List UInt8) :
    ((addKey key).run faulty).result = .ok slot ∧ ((addKey key).run faulty).state =
      { faulty with store := faulty.store.write keySpace (slotKey slot) key } := by
  simp [addKey, hfree, run_write, hfault, Log.info, Except.map]

/-- A key is written to the lowest free slot, unless there is none or the write fails. -/
theorem state_addKey (key : List UInt8) (faulty : FaultyStore) :
    ((addKey key).run faulty).state = faulty ∨ ∃ slot ∈ slots,
      ((addKey key).run faulty).state =
        { faulty with store := faulty.store.write keySpace (slotKey slot) key } := by
  cases hfree : freeSlot? faulty with
  | none => exact .inl (by rw [run_addKey_of_full hfree])
  | some slot =>
    cases hfault : faulty.fault? ⟨.write, keySpace, slotKey slot⟩ with
    | some reason => exact .inl (by rw [run_addKey_of_fault hfree hfault])
    | none =>
      exact .inr ⟨slot, List.mem_of_find?_eq_some hfree, (addKey_of_free hfree hfault key).2⟩

/-- The mark is written only after the identity key. -/
theorem state_storeIdentity (identity : List UInt8) (faulty : FaultyStore) :
    ((storeIdentity identity).run faulty).state =
      if faulty.allows .write (beaconSpace, identityKey) then
        let store := faulty.store.write beaconSpace identityKey identity
        if faulty.allows .write (beaconSpace, provisionedKey) then
          { faulty with store := store.write beaconSpace provisionedKey [1] }
        else { faulty with store }
      else faulty := by
  cases hkey : faulty.fault? ⟨.write, beaconSpace, identityKey⟩ with
  | some reason => simp [storeIdentity, run_write, FaultyStore.allows, hkey]
  | none =>
    have hfault : ∀ store, ({ faulty with store } : FaultyStore).fault?
        ⟨.write, beaconSpace, provisionedKey⟩ =
          faulty.fault? ⟨.write, beaconSpace, provisionedKey⟩ := fun store ↦ rfl
    cases hmark : faulty.fault? ⟨.write, beaconSpace, provisionedKey⟩ <;>
      simp [storeIdentity, run_write, FaultyStore.allows, hkey, hfault, hmark]

/-- Deletions in order do their work up to the first that fails. -/
theorem state_deleteAll (entries : List (String × String)) (faulty : FaultyStore) :
    ((deleteAll entries).run faulty).state =
      { faulty with store := faulty.store.deleteEach (entries.takeWhile (faulty.allows .delete)) } := by
  induction entries generalizing faulty with
  | nil => rfl
  | cons entry rest ih =>
    obtain ⟨space, key⟩ := entry
    cases hfault : faulty.fault? ⟨.delete, space, key⟩ with
    | some reason =>
      have hkept : faulty.allows .delete (space, key) = false := by
        simp [FaultyStore.allows, hfault]
      simp [deleteAll, run_delete, hfault, hkept, Store.deleteEach]
    | none =>
      have hdeleted : faulty.allows .delete (space, key) = true := by
        simp [FaultyStore.allows, hfault]
      simp only [deleteAll, Act.run_bind, run_delete, hfault, Outcome.andThen_ok,
        Outcome.state_behind, ih, List.takeWhile_cons_of_pos hdeleted]
      rfl

/-- Deletions in order answer with the fault of the first that fails. -/
theorem result_deleteAll (entries : List (String × String)) (faulty : FaultyStore) :
    ((deleteAll entries).run faulty).result =
      match entries.findSome? faulty.deletionFault? with
      | none => .ok ()
      | some fault => .error (.ofStore fault) := by
  induction entries generalizing faulty with
  | nil => rfl
  | cons entry rest ih =>
    obtain ⟨space, key⟩ := entry
    cases hfault : faulty.fault? ⟨.delete, space, key⟩ with
    | some fault =>
      have hfound : faulty.deletionFault? (space, key) = some fault := hfault
      simp [deleteAll, run_delete, hfault, hfound]
    | none =>
      have hfound : faulty.deletionFault? (space, key) = none := hfault
      simp only [deleteAll, Act.run_bind, run_delete, hfault, Outcome.andThen_ok,
        Outcome.result_behind, ih, List.findSome?_cons, hfound]
      rfl

theorem result_factoryReset (faulty : FaultyStore) :
    (factoryReset.run faulty).result =
      match erased.findSome? faulty.deletionFault? with
      | none => .ok ()
      | some fault => .error (.ofStore fault) := by
  rw [← result_deleteAll]
  rcases hrun : (deleteAll erased).run faulty with ⟨reason | _, after, lines⟩ <;>
    simp [factoryReset, Log.info, hrun]

theorem state_factoryReset (faulty : FaultyStore) :
    (factoryReset.run faulty).state =
      { faulty with store := faulty.store.deleteEach (erased.takeWhile (faulty.allows .delete)) } := by
  rw [← state_deleteAll]
  rcases hrun : (deleteAll erased).run faulty with ⟨reason | _, after, lines⟩ <;>
    simp [factoryReset, Log.info, hrun]

end KeyRing

end TagControl
