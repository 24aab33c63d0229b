import TargetBuilder.Fault
import TargetBuilder.OrderedMap

/-!
# Method tables

The selectors that a type of target exposes, each with its arity and with a body that says what it
does. Registering a selector again replaces its entry, and so does merging another table in. A table
is an ordered map, so look-up is decided by the last registration alone.
-/

namespace TargetBuilder

/-- An exposed selector's arity and body. -/
structure Method (β : Type) where
  arity : Arity
  body : β
  deriving Repr

/-- The selectors that a type of target exposes. -/
structure MethodTable (β : Type) where
  methods : OrderedMap String (Method β)
  deriving Repr

namespace MethodTable

variable {β : Type}

/-- The table without selectors. -/
def empty : MethodTable β := ⟨.empty⟩

instance : Inhabited (MethodTable β) := ⟨empty⟩

/-- Registers a selector. -/
def method (t : MethodTable β) (selector : String) (arity : Arity) (body : β) : MethodTable β :=
  ⟨t.methods.insert selector ⟨arity, body⟩⟩

/-- Takes in every entry of `other`, which replace entries of the same selectors. -/
def merge (t other : MethodTable β) : MethodTable β :=
  ⟨t.methods.insertAll other.methods.entries⟩

/-- The arity of a selector, if it is exposed. -/
def arityOf (t : MethodTable β) (selector : String) : Option Arity :=
  (t.methods.get? selector).map (·.arity)

/-- Whether a selector is exposed for `count` arguments. -/
def respondsTo (t : MethodTable β) (selector : String) (count : Nat) : Bool :=
  match t.arityOf selector with
  | some arity => arity.accepts count
  | none => false

/-- The exposed selectors in ascending order. -/
def selectors (t : MethodTable β) : List String :=
  t.methods.keys.mergeSort fun a b => decide (a ≤ b)

/-- How many selectors are exposed. -/
def size (t : MethodTable β) : Nat := t.methods.size

/-- Whether no selector is exposed. -/
def isEmpty (t : MethodTable β) : Bool := t.methods.isEmpty

/-- The body to run when `selector` is sent with `count` arguments to a target of type `type`. -/
def resolve (t : MethodTable β) (type selector : String) (count : Nat) : Except Fault β :=
  match t.methods.get? selector with
  | none => .error (.unsupported selector type)
  | some m =>
    if m.arity.accepts count then .ok m.body
    else .error (.argumentCount selector type m.arity count)

/-! ## Look-up after a registration, and what the two ways of asking have in common -/

@[simp] theorem arityOf_empty (selector : String) : (empty : MethodTable β).arityOf selector = none :=
  rfl

theorem arityOf_method (t : MethodTable β) (selector other : String) (arity : Arity) (body : β) :
    (t.method selector arity body).arityOf other =
      if other = selector then some arity else t.arityOf other := by
  simp only [arityOf, method, OrderedMap.get?_insert]
  split <;> simp

theorem resolve_isOk_iff (t : MethodTable β) (type selector : String) (count : Nat) :
    (∃ body, t.resolve type selector count = .ok body) ↔ t.respondsTo selector count = true := by
  unfold resolve respondsTo arityOf
  cases h : t.methods.get? selector with
  | none => simp
  | some m => by_cases ha : m.arity.accepts count = true <;> simp [ha]

/-- The description of a table. -/
def describe (t : MethodTable β) : String :=
  Text.record "MethodTable" [("selectors", Text.list (t.selectors.map Text.quoted))]

end MethodTable

end TargetBuilder
