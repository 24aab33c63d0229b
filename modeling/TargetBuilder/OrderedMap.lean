/-!
# Ordered maps

A map that remembers the order in which its keys first came. Storing under a key that is there
replaces the value in its place; storing under a new key appends. The view of a map is its look-up
`get?` together with the list `keys`.
-/

namespace TargetBuilder

/-- A map from `κ` to `α` in the order of first insertion. -/
structure OrderedMap (κ α : Type) where
  entries : List (κ × α)
  deriving DecidableEq, Repr

namespace OrderedMap

variable {κ α : Type}

/-- The map without entries. -/
def empty : OrderedMap κ α := ⟨[]⟩

instance : EmptyCollection (OrderedMap κ α) := ⟨empty⟩

instance : Inhabited (OrderedMap κ α) := ⟨empty⟩

section Operations

variable [DecidableEq κ]

/-- The entries after storing `value` under `key`. -/
def put (key : κ) (value : α) : List (κ × α) → List (κ × α)
  | [] => [(key, value)]
  | (k, v) :: rest => if k = key then (k, value) :: rest else (k, v) :: put key value rest

/-- The value of the first entry with the given key. -/
def find (key : κ) : List (κ × α) → Option α
  | [] => none
  | (k, v) :: rest => if k = key then some v else find key rest

/-- Stores `value` under `key`: in place if the key is there, at the end otherwise. -/
def insert (m : OrderedMap κ α) (key : κ) (value : α) : OrderedMap κ α :=
  ⟨put key value m.entries⟩

/-- The value stored under `key`. -/
def get? (m : OrderedMap κ α) (key : κ) : Option α := find key m.entries

/-- Whether `key` has a value. -/
def contains (m : OrderedMap κ α) (key : κ) : Bool := (m.get? key).isSome

/-- The map without `key`. -/
def erase (m : OrderedMap κ α) (key : κ) : OrderedMap κ α :=
  ⟨m.entries.filter fun e => decide (e.1 ≠ key)⟩

/-- Stores every entry of `more`, in order. -/
def insertAll (m : OrderedMap κ α) (more : List (κ × α)) : OrderedMap κ α :=
  more.foldl (fun m e => m.insert e.1 e.2) m

/-- The map that arises by storing the given pairs one after the other. -/
def ofList (pairs : List (κ × α)) : OrderedMap κ α := empty.insertAll pairs

end Operations

/-- The keys in the order of first insertion. -/
def keys (m : OrderedMap κ α) : List κ := m.entries.map Prod.fst

/-- The values in the order of their keys. -/
def values (m : OrderedMap κ α) : List α := m.entries.map Prod.snd

/-- How many keys there are. -/
def size (m : OrderedMap κ α) : Nat := m.entries.length

/-- Whether there is no key. -/
def isEmpty (m : OrderedMap κ α) : Bool := m.entries.isEmpty

/-! ## Look-up after each operation -/

section Lemmas

variable [DecidableEq κ]

@[simp] theorem get?_empty (key : κ) : (empty : OrderedMap κ α).get? key = none := rfl

theorem find_put_self (key : κ) (value : α) (es : List (κ × α)) :
    find key (put key value es) = some value := by
  induction es with
  | nil => simp [put, find]
  | cons e rest ih =>
    obtain ⟨k, v⟩ := e
    by_cases h : k = key
    · simp [put, find, h]
    · simp [put, find, h, ih]

theorem find_put_of_ne {key other : κ} (h : other ≠ key) (value : α) (es : List (κ × α)) :
    find other (put key value es) = find other es := by
  induction es with
  | nil => simp [put, find, Ne.symm h]
  | cons e rest ih =>
    obtain ⟨k, v⟩ := e
    by_cases hk : k = key
    · simp [put, find, hk, Ne.symm h]
    · by_cases ho : k = other
      · simp [put, find, ho, h]
      · simp [put, find, hk, ho, ih]

@[simp] theorem get?_insert_self (m : OrderedMap κ α) (key : κ) (value : α) :
    (m.insert key value).get? key = some value :=
  find_put_self key value m.entries

theorem get?_insert_of_ne (m : OrderedMap κ α) {key other : κ} (h : other ≠ key) (value : α) :
    (m.insert key value).get? other = m.get? other :=
  find_put_of_ne h value m.entries

theorem get?_insert (m : OrderedMap κ α) (key other : κ) (value : α) :
    (m.insert key value).get? other = if other = key then some value else m.get? other := by
  by_cases h : other = key
  · simp [h]
  · simp [h, get?_insert_of_ne m h]

theorem find_filter_ne (key other : κ) (es : List (κ × α)) :
    find other (es.filter fun e => decide (e.1 ≠ key)) =
      if other = key then none else find other es := by
  induction es with
  | nil => simp [find]
  | cons e rest ih =>
    obtain ⟨k, v⟩ := e
    by_cases hk : k = key
    · rw [List.filter_cons_of_neg (by simp [hk]), ih]
      by_cases ho : other = key
      · rw [if_pos ho, if_pos ho]
      · rw [if_neg ho, if_neg ho, find, if_neg fun h => ho (h.symm.trans hk)]
    · rw [List.filter_cons_of_pos (by simp [hk])]
      by_cases ho : k = other
      · rw [find, if_pos ho, if_neg fun h => hk (ho.trans h), find, if_pos ho]
      · rw [find, if_neg ho, ih, find, if_neg ho]

theorem get?_erase (m : OrderedMap κ α) (key other : κ) :
    (m.erase key).get? other = if other = key then none else m.get? other :=
  find_filter_ne key other m.entries

end Lemmas

end OrderedMap

end TargetBuilder
