/-!
A store of named entries of bytes. An entry is addressed by a namespace and a key, which are
joined into one name by two colons; different pairs can share a name if a namespace holds colons.
Reading has a capacity, and an entry longer than it is not read at all.

`Store.get?_insert` and `Store.get?_erase` say what writing and deleting do to every entry, and
`Store.read_of_get?_eq_some` what is read of one.
-/

set_option autoImplicit false

namespace TagControl

inductive StoreError where
  | notFound
  | full
  | io
  /-- The entry is longer than the capacity it is read with. -/
  | tooLong
deriving DecidableEq

def StoreError.message : StoreError → String
  | notFound => "key not found"
  | full => "storage full"
  | io => "I/O error"
  | tooLong => "buffer too small"

structure Store where
  entries : List (String × List UInt8) := []
deriving DecidableEq

namespace Store

def entryName (space key : String) : String :=
  space ++ "::" ++ key

def get? (store : Store) (name : String) : Option (List UInt8) :=
  store.entries.lookup name

def erase (store : Store) (name : String) : Store where
  entries := store.entries.filter fun entry ↦ entry.1 ≠ name

def insert (store : Store) (name : String) (data : List UInt8) : Store where
  entries := (name, data) :: (store.erase name).entries

@[simp] theorem get?_empty (name : String) : ({} : Store).get? name = none := rfl

theorem lookup_filter_ne (entries : List (String × List UInt8)) (name other : String) :
    (entries.filter fun entry ↦ entry.1 ≠ name).lookup other =
      if other = name then none else entries.lookup other := by
  induction entries with
  | nil => simp
  | cons entry rest ih =>
    obtain ⟨key, data⟩ := entry
    by_cases hkey : key = name
    · subst hkey
      rw [List.filter_cons_of_neg (by simp), ih]
      by_cases h : other = key
      · simp [h]
      · simp [h, List.lookup_cons, beq_false_of_ne h]
    · rw [List.filter_cons_of_pos (by simpa using hkey), List.lookup_cons, List.lookup_cons, ih]
      by_cases h : other = key
      · simp [h, hkey]
      · simp [beq_false_of_ne h]

@[simp] theorem get?_erase (store : Store) (name other : String) :
    (store.erase name).get? other = if other = name then none else store.get? other :=
  lookup_filter_ne store.entries name other

@[simp] theorem get?_insert (store : Store) (name other : String) (data : List UInt8) :
    (store.insert name data).get? other = if other = name then some data else store.get? other := by
  simp only [insert, get?, List.lookup_cons, erase, lookup_filter_ne]
  by_cases h : other = name
  · simp [h]
  · simp [h, beq_false_of_ne h]

/-- Reads an entry of at most `capacity` bytes. -/
def read (store : Store) (space key : String) (capacity : Nat) :
    Except StoreError (List UInt8) :=
  match store.get? (entryName space key) with
  | none => .error .notFound
  | some data => if capacity < data.length then .error .tooLong else .ok data

theorem read_of_get?_eq_none {store : Store} {space key : String} {capacity : Nat}
    (hentry : store.get? (entryName space key) = none) :
    store.read space key capacity = .error .notFound := by
  rw [read, hentry]

theorem read_of_get?_eq_some {store : Store} {space key : String} {capacity : Nat}
    {data : List UInt8} (hentry : store.get? (entryName space key) = some data) :
    store.read space key capacity =
      if capacity < data.length then .error .tooLong else .ok data := by
  rw [read, hentry]

def write (store : Store) (space key : String) (data : List UInt8) : Store :=
  store.insert (entryName space key) data

def delete (store : Store) (space key : String) : Store :=
  store.erase (entryName space key)

def contains (store : Store) (space key : String) : Bool :=
  (store.get? (entryName space key)).isSome

end Store

end TagControl
