import Mathlib.Data.List.Induction
import TagControl.Proofs.Settings
/-!
The store as a map from places, each a namespace and a key. If no namespace holds a colon, two
places never share an entry (`Store.entryName_inj`), whatever their keys are. So what is read at a
place is what the last change of exactly that place left there, and no change of another place
matters to it.
-/

set_option autoImplicit false

namespace TagControl.Store

/-! ### Names -/

/-- The first colon ends the part before it. -/
theorem append_colon_inj {first second rest others : List Char} (hfirst : ':' ∉ first)
    (hsecond : ':' ∉ second) (happend : first ++ ':' :: rest = second ++ ':' :: others) :
    first = second ∧ rest = others := by
  obtain ⟨more, rfl, hmore⟩ | ⟨more, rfl, hmore⟩ := List.append_eq_append_iff.mp happend
  · cases more with
    | nil => simpa using hmore
    | cons colon more =>
      obtain ⟨rfl, -⟩ := List.cons.inj hmore
      simp at hsecond
  · cases more with
    | nil => simpa [eq_comm] using hmore
    | cons colon more =>
      obtain ⟨rfl, -⟩ := List.cons.inj hmore
      simp at hfirst

theorem entryName_inj {space other key otherKey : String} (hspace : ':' ∉ space.toList)
    (hother : ':' ∉ other.toList) :
    entryName space key = entryName other otherKey ↔ space = other ∧ key = otherKey := by
  constructor
  · intro hname
    have hchars := congrArg String.toList hname
    simp only [entryName, String.toList_append, List.append_assoc] at hchars
    obtain ⟨hsame, hrest⟩ := append_colon_inj hspace hother hchars
    exact ⟨String.toList_inj.mp hsame, String.toList_inj.mp (List.cons.inj hrest).2⟩
  · rintro ⟨rfl, rfl⟩
    rfl

/-- With a colon in a namespace two places can share an entry. -/
example : entryName "a" "b::c" = entryName "a::b" "c" := by decide

/-! ### Changes -/

theorem get?_write (store : Store) {space other key otherKey : String} (data : List UInt8)
    (hspace : ':' ∉ space.toList) (hother : ':' ∉ other.toList) :
    (store.write other otherKey data).get? (entryName space key) =
      if (other, otherKey) = (space, key) then some data else store.get? (entryName space key) := by
  rw [write, get?_insert]
  simp only [entryName_inj hspace hother, Prod.mk.injEq, eq_comm]

theorem get?_delete (store : Store) {space other key otherKey : String}
    (hspace : ':' ∉ space.toList) (hother : ':' ∉ other.toList) :
    (store.delete other otherKey).get? (entryName space key) =
      if (other, otherKey) = (space, key) then none else store.get? (entryName space key) := by
  rw [delete, get?_erase]
  simp only [entryName_inj hspace hother, Prod.mk.injEq, eq_comm]

/-- A change of a store: an entry is written or deleted, or a configuration is saved. -/
inductive Change where
  | write (space key : String) (data : List UInt8)
  | delete (space key : String)
  | save (config : Config)

namespace Change

/-- The namespace that a change is given. -/
def space : Change → String
  | write space _ _ => space
  | delete space _ => space
  | save _ => configSpace

/-- The place that a change touches. A configuration that is refused touches none. -/
def place? : Change → Option (String × String)
  | write space key _ => some (space, key)
  | delete space key => some (space, key)
  | save config =>
    match config.validate with
    | .ok () => some (configSpace, configKey)
    | .error _ => none

/-- The bytes that a change writes. -/
def data? : Change → Option (List UInt8)
  | write _ _ data => some data
  | delete _ _ => none
  | save config => some config.encode

def applyTo (change : Change) (store : Store) : Store :=
  match change with
  | write space key data => store.write space key data
  | delete space key => store.delete space key
  | save config => ((saveConfig config).run store).value.2

/-- A change touches its own place and no other. -/
theorem get?_applyTo {change : Change} (store : Store) {space key : String}
    (hchange : ':' ∉ change.space.toList) (hspace : ':' ∉ space.toList) :
    (change.applyTo store).get? (entryName space key) =
      if change.place? = some (space, key) then change.data?
      else store.get? (entryName space key) := by
  cases change with
  | write other otherKey data =>
    simp only [place?, Option.some.injEq]
    exact get?_write store data hspace hchange
  | delete other otherKey =>
    simp only [place?, Option.some.injEq]
    exact get?_delete store hspace hchange
  | save config =>
    cases hvalidate : config.validate with
    | ok done =>
      simp only [applyTo, saveConfig_of_valid hvalidate, place?, hvalidate, Option.some.injEq]
      exact get?_write store config.encode hspace hchange
    | error reason =>
      simp only [applyTo, saveConfig_of_invalid hvalidate, place?, hvalidate, reduceCtorEq,
        if_false]

end Change

/-- The store after changes made one after the other. -/
def afterChanges (store : Store) (changes : List Change) : Store :=
  changes.foldl (fun store change ↦ change.applyTo store) store

/-- The bytes that the last change of exactly this place wrote, if it did not delete them. -/
def lastWritten (changes : List Change) (space key : String) : Option (List UInt8) :=
  (changes.filter (·.place? = some (space, key))).getLast?.bind Change.data?

theorem lastWritten_append_singleton (changes : List Change) (last : Change)
    (space key : String) : lastWritten (changes ++ [last]) space key =
      if last.place? = some (space, key) then last.data? else lastWritten changes space key := by
  unfold lastWritten
  by_cases hplace : last.place? = some (space, key)
  · simp [hplace]
  · simp [hplace]

theorem get?_afterChanges {changes : List Change} {space key : String}
    (hchanges : ∀ change ∈ changes, ':' ∉ change.space.toList) (hspace : ':' ∉ space.toList) :
    (afterChanges {} changes).get? (entryName space key) = lastWritten changes space key := by
  induction changes using List.reverseRecOn with
  | nil => rfl
  | append_singleton changes last ih =>
    rw [List.forall_mem_append, List.forall_mem_singleton] at hchanges
    obtain ⟨hearlier, hlast⟩ := hchanges
    rw [lastWritten_append_singleton, ← ih hearlier, afterChanges, List.foldl_append]
    exact Change.get?_applyTo _ hlast hspace

/-! ### Reading -/

theorem read_congr {first second : Store} {space key : String}
    (hentry : first.get? (entryName space key) = second.get? (entryName space key))
    (capacity : Nat) : first.read space key capacity = second.read space key capacity := by
  rw [read, read, hentry]

/-- After any changes of a new store, all in namespaces without a colon, a place in such a namespace
holds what was last written to exactly that place, unless it has been deleted since. It is read in
full or, if it is longer than the capacity, not at all; whether there is an entry is told truly. No
change of another place alters what is read here, and no other place has the same name. -/
theorem place_holds_last_written (changes : List Change)
    (hchanges : ∀ change ∈ changes, ':' ∉ change.space.toList) (space key : String)
    (hspace : ':' ∉ space.toList) :
    (∀ capacity, (create.value.afterChanges changes).read space key capacity =
      match lastWritten changes space key with
      | none => .error .notFound
      | some data => if capacity < data.length then .error .tooLong else .ok data) ∧
    (create.value.afterChanges changes).contains space key =
      (lastWritten changes space key).isSome ∧
    (∀ (store : Store) (change : Change), ':' ∉ change.space.toList →
      change.place? ≠ some (space, key) →
      (∀ capacity, (change.applyTo store).read space key capacity =
        store.read space key capacity) ∧
      (change.applyTo store).contains space key = store.contains space key) ∧
    ∀ other otherKey : String, ':' ∉ other.toList →
      (entryName space key = entryName other otherKey ↔ space = other ∧ key = otherKey) := by
  have hentry : (create.value.afterChanges changes).get? (entryName space key) =
      lastWritten changes space key := get?_afterChanges hchanges hspace
  refine ⟨fun capacity ↦ ?_, congrArg Option.isSome hentry, fun store change hchange hplace ↦ ?_,
    fun other otherKey ↦ entryName_inj hspace⟩
  · cases hwritten : lastWritten changes space key with
    | none => exact read_of_get?_eq_none (hentry.trans hwritten)
    | some data => exact read_of_get?_eq_some (hentry.trans hwritten)
  · have hkept : (change.applyTo store).get? (entryName space key) =
        store.get? (entryName space key) := by
      rw [Change.get?_applyTo store hchange hspace, if_neg hplace]
    exact ⟨read_congr hkept, congrArg Option.isSome hkept⟩

/-- Two keys that differ by a colon in front, one of them written twice and the other deleted. -/
def colonKeys : List Change :=
  [.write "a" ":b" [1], .write "a" "b" [7], .write "a" ":b" [2, 3], .save {}, .delete "a" "b"]

/-- The two keys are kept apart, and the configuration from both. -/
theorem colon_keys_kept_apart :
    (∀ change ∈ colonKeys, ':' ∉ change.space.toList) ∧
    (create.value.afterChanges colonKeys).read "a" ":b" 2 = .ok [2, 3] ∧
    (create.value.afterChanges colonKeys).read "a" ":b" 1 = .error .tooLong ∧
    (create.value.afterChanges colonKeys).contains "a" "b" = false ∧
    (create.value.afterChanges colonKeys).read configSpace configKey configCapacity =
      .ok (Config.encode {}) := by
  have hchanges : ∀ change ∈ colonKeys, ':' ∉ change.space.toList := by decide
  have hcolon := place_holds_last_written colonKeys hchanges "a" ":b" (by decide)
  have hplain := place_holds_last_written colonKeys hchanges "a" "b" (by decide)
  have hconfig := place_holds_last_written colonKeys hchanges configSpace configKey (by decide)
  exact ⟨hchanges, hcolon.1 2, hcolon.1 1, hplain.2.1, hconfig.1 configCapacity⟩

end TagControl.Store
