/-!
# Arenas

A store that only grows: what is allocated gets the next number and keeps it. Reading at a number
that was never given out answers the default value, and writing there does nothing.
-/

namespace TargetBuilder

/-- Values numbered from zero in the order in which they were allocated. -/
structure Arena (α : Type) where
  items : Array α
  deriving Repr

namespace Arena

variable {α : Type}

/-- The arena in which nothing is allocated. -/
def empty : Arena α := ⟨#[]⟩

instance : EmptyCollection (Arena α) := ⟨empty⟩

instance : Inhabited (Arena α) := ⟨empty⟩

/-- How many values are allocated. -/
def size (a : Arena α) : Nat := a.items.size

/-- The value with number `i`. -/
def get? (a : Arena α) (i : Nat) : Option α := a.items[i]?

/-- The value with number `i`, or the default one. -/
def get [Inhabited α] (a : Arena α) (i : Nat) : α := (a.get? i).getD default

/-- Changes the value with number `i`. -/
def update (a : Arena α) (i : Nat) (f : α → α) : Arena α := ⟨a.items.modify i f⟩

/-- Adds a value, whose number is the old size. -/
def push (a : Arena α) (x : α) : Arena α := ⟨a.items.push x⟩

/-! ## Look-up after each operation -/

@[simp] theorem size_update (a : Arena α) (i : Nat) (f : α → α) : (a.update i f).size = a.size := by
  simp [update, size]

@[simp] theorem size_push (a : Arena α) (x : α) : (a.push x).size = a.size + 1 := by
  simp [push, size]

theorem get?_empty (i : Nat) : (empty : Arena α).get? i = none := rfl

theorem get?_eq_none_iff (a : Arena α) (i : Nat) : a.get? i = none ↔ a.size ≤ i := by
  simp [get?, size]

theorem get?_update (a : Arena α) (i j : Nat) (f : α → α) :
    (a.update i f).get? j = if i = j then (a.get? j).map f else a.get? j := by
  simp [update, get?, Array.getElem?_modify]

theorem get?_push (a : Arena α) (x : α) (i : Nat) :
    (a.push x).get? i = if i = a.size then some x else a.get? i := by
  unfold push get? size
  exact Array.getElem?_push

theorem get_update_self [Inhabited α] (a : Arena α) (f : α → α) {i : Nat} (h : i < a.size) :
    (a.update i f).get i = f (a.get i) := by
  obtain ⟨x, hx⟩ : ∃ x, a.get? i = some x := by
    rw [← Option.isSome_iff_exists, Option.isSome_iff_ne_none, Ne, get?_eq_none_iff]
    omega
  simp [get, get?_update, hx]

theorem get_update_of_ne [Inhabited α] (a : Arena α) (f : α → α) {i j : Nat} (h : i ≠ j) :
    (a.update i f).get j = a.get j := by
  simp [get, get?_update, h]

theorem get_update [Inhabited α] (a : Arena α) (i j : Nat) (f : α → α) :
    (a.update i f).get j = if j = i ∧ i < a.size then f (a.get i) else a.get j := by
  by_cases hj : i = j
  · subst hj
    by_cases hi : i < a.size
    · rw [if_pos ⟨rfl, hi⟩, get_update_self a f hi]
    · rw [if_neg fun h => hi h.2]
      have gone := (a.get?_eq_none_iff i).mpr (Nat.le_of_not_lt hi)
      simp [get, get?_update, gone]
  · rw [if_neg fun h => hj h.1.symm, get_update_of_ne a f hj]

/-- Two arenas that look the same under every number are the same. -/
theorem ext_get? {a b : Arena α} (h : ∀ i, a.get? i = b.get? i) : a = b := by
  cases a
  cases b
  exact congrArg mk (Array.ext_getElem? h)

/-- How a value is changed depends on what becomes of that value only. -/
theorem update_congr [Inhabited α] (a : Arena α) {i : Nat} {f g : α → α} (h : f (a.get i) = g (a.get i)) :
    a.update i f = a.update i g := by
  refine ext_get? fun j => ?_
  rw [get?_update, get?_update]
  split
  · next hi =>
    subst hi
    unfold get at h
    cases found : a.get? i with
    | none => rfl
    | some x =>
      rw [found] at h
      exact congrArg some h
  · rfl

/-- Storing what is there changes nothing. -/
theorem update_get_self [Inhabited α] (a : Arena α) (i : Nat) :
    (a.update i fun _ => a.get i) = a := by
  have unchanged : (a.update i fun _ => a.get i) = a.update i id := a.update_congr rfl
  rw [unchanged]
  refine ext_get? fun j => ?_
  rw [get?_update, Option.map_id]
  exact ite_self _

/-- Two changes of the same value are one. -/
theorem update_update (a : Arena α) (i : Nat) (f g : α → α) :
    (a.update i f).update i g = a.update i (g ∘ f) := by
  refine ext_get? fun j => ?_
  rw [get?_update, get?_update, get?_update]
  split
  · rw [Option.map_map]
  · rfl

/-- Changing a value that is not there changes nothing. -/
theorem update_of_size_le (a : Arena α) {i : Nat} (f : α → α) (h : a.size ≤ i) : a.update i f = a := by
  refine ext_get? fun j => ?_
  rw [get?_update]
  split
  · next hi =>
    rw [← hi, (a.get?_eq_none_iff i).mpr h]
    rfl
  · rfl

theorem get_push_self [Inhabited α] (a : Arena α) (x : α) : (a.push x).get a.size = x := by
  simp [get, get?_push]

theorem get_push_of_lt [Inhabited α] (a : Arena α) (x : α) {i : Nat} (h : i < a.size) :
    (a.push x).get i = a.get i := by
  simp [get, get?_push, Nat.ne_of_lt h]

/-- What a new value has in common with the default one is seen everywhere as before. -/
theorem get_push_same [Inhabited α] {β : Type} (p : α → β) (a : Arena α) {x : α}
    (h : p x = p default) (i : Nat) : p ((a.push x).get i) = p (a.get i) := by
  unfold get
  rw [get?_push]
  split
  · next hi => rw [hi, (a.get?_eq_none_iff a.size).mpr (Nat.le_refl _)]; exact h
  · rfl

/-- What a change leaves alone is seen everywhere as before. -/
theorem get_update_same [Inhabited α] {β : Type} (p : α → β) (a : Arena α) {f : α → α} {i : Nat}
    (h : p (f (a.get i)) = p (a.get i)) (j : Nat) : p ((a.update i f).get j) = p (a.get j) := by
  rw [get_update]
  split
  · next hj => rw [h, hj.1]
  · rfl

end Arena

end TargetBuilder
