import TargetBuilder.Value

/-!
# Metadata of a target

Every target carries two stores that outlive the calls that use them. Slots are read and written under
a session and a name; a slot holds a value of one of several types and is read as one of them. Names
that are *in flight* are marked by guarded calls, for every session that visits the target.
-/

namespace TargetBuilder

/-- The identity of a session. -/
structure SessionId where
  index : Nat
  deriving DecidableEq, Repr, Inhabited

namespace SessionId

/-- The number of the session in the order of creation, from one. -/
def number (s : SessionId) : Nat := s.index + 1

/-- The description of the identity. -/
def describe (s : SessionId) : String := "SessionId(" ++ toString s.number ++ ")"

end SessionId

/-- What a slot can hold. -/
inductive Slot where
  | int (n : Int64)
  | text (s : String)
  | value (v : Value)
  /-- The place of a provider in a registry. -/
  | provider (key : Nat)
  deriving Repr

namespace Slot

/-- The integer, if the slot holds one. -/
def int? : Slot → Option Int64
  | int n => some n
  | _ => none

/-- The text, if the slot holds one. -/
def text? : Slot → Option String
  | text s => some s
  | _ => none

/-- The value, if the slot holds one. -/
def value? : Slot → Option Value
  | value v => some v
  | _ => none

/-- The place of a provider, if the slot holds one. -/
def provider? : Slot → Option Nat
  | provider key => some key
  | _ => none

end Slot

/-- The slots of a target, each holding a `σ`, and the names in flight on it. -/
structure Metadata (σ : Type := Slot) where
  slots : OrderedMap (SessionId × String) σ
  inFlight : List String
  deriving Repr

namespace Metadata

variable {σ : Type}

/-- No slots, and nothing in flight. -/
def empty : Metadata σ := ⟨.empty, []⟩

instance : Inhabited (Metadata σ) := ⟨empty⟩

/-- Stores a slot, in the place of what was stored under the same session and name. -/
def set (m : Metadata σ) (scope : SessionId) (name : String) (slot : σ) : Metadata σ :=
  { m with slots := m.slots.insert (scope, name) slot }

/-- Reads a slot, which must be of the wanted type. -/
def get? {α : Type} (m : Metadata σ) (wanted : σ → Option α) (scope : SessionId) (name : String) :
    Option α :=
  (m.slots.get? (scope, name)).bind wanted

/-- Whether `name` is in flight. -/
def isInFlight (m : Metadata σ) (name : String) : Bool := m.inFlight.contains name

/-- Marks `name`, unless it is in flight already. -/
def launch? (m : Metadata σ) (name : String) : Option (Metadata σ) :=
  if m.isInFlight name then none else some { m with inFlight := m.inFlight ++ [name] }

/-- Takes the mark off `name`. -/
def land (m : Metadata σ) (name : String) : Metadata σ :=
  { m with inFlight := m.inFlight.filter (· ≠ name) }

/-! ### What each operation does to what is seen -/

@[simp] theorem get?_empty {α : Type} (wanted : σ → Option α) (scope : SessionId)
    (name : String) : (empty : Metadata σ).get? wanted scope name = none := rfl

theorem get?_set {α : Type} (m : Metadata σ) (wanted : σ → Option α) (scope other : SessionId)
    (name key : String) (slot : σ) :
    (m.set scope name slot).get? wanted other key =
      if (other, key) = (scope, name) then wanted slot else m.get? wanted other key := by
  simp only [get?, set, OrderedMap.get?_insert]
  split <;> simp_all

@[simp] theorem isInFlight_set (m : Metadata σ) (scope : SessionId) (name key : String)
    (slot : σ) : (m.set scope name slot).isInFlight key = m.isInFlight key := rfl

theorem launch?_eq_none_iff (m : Metadata σ) (name : String) :
    m.launch? name = none ↔ m.isInFlight name = true := by
  simp [launch?]

theorem isInFlight_of_launch? {m launched : Metadata σ} {name : String}
    (h : m.launch? name = some launched) (key : String) :
    launched.isInFlight key = (m.isInFlight key || decide (key = name)) := by
  unfold launch? at h
  split at h
  · cases h
  · cases h
    by_cases hk : key = name <;> simp [isInFlight, hk]

theorem isInFlight_land (m : Metadata σ) (name key : String) :
    (m.land name).isInFlight key = (m.isInFlight key && decide (key ≠ name)) := by
  by_cases hk : key = name <;> simp [isInFlight, land, hk]

/-- Marking a name and taking the mark off again changes nothing. -/
theorem land_of_launch? {m launched : Metadata σ} {name : String} (h : m.launch? name = some launched) :
    launched.land name = m := by
  unfold launch? at h
  split at h
  · cases h
  · next free =>
    cases h
    unfold land
    have kept : m.inFlight.filter (· ≠ name) = m.inFlight := by
      refine List.filter_eq_self.mpr fun other mem => ?_
      rw [decide_eq_true_eq]
      rintro rfl
      exact free (List.contains_iff_mem.mpr mem)
    rw [List.filter_append, kept]
    simp

theorem get?_of_launch? {α : Type} {m launched : Metadata σ} {name : String}
    (h : m.launch? name = some launched) (wanted : σ → Option α) (scope : SessionId) (key : String) :
    launched.get? wanted scope key = m.get? wanted scope key := by
  unfold launch? at h
  split at h
  · cases h
  · cases h
    rfl

@[simp] theorem get?_land {α : Type} (m : Metadata σ) (wanted : σ → Option α)
    (scope : SessionId) (name key : String) :
    (m.land name).get? wanted scope key = m.get? wanted scope key := rfl

/-- The description of the metadata. -/
def describe (m : Metadata σ) : String :=
  Text.record "TargetMeta"
    [("slots", toString m.slots.size), ("in_flight", Text.set (m.inFlight.map Text.quoted))]

end Metadata

/-- The description of a name in flight. -/
def describeInFlight (name : String) : String :=
  "InFlight(" ++ Text.quoted name ++ ")"

end TargetBuilder
