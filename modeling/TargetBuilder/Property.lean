import TargetBuilder.Value

/-!
# Properties

A property holds one value, which can be read and replaced. A copy is a property of its own.
-/

namespace TargetBuilder

/-- A configurable value. -/
structure Property where
  value : Value
  deriving Repr

namespace Property

instance : Inhabited Property := ⟨⟨.nil⟩⟩

/-- The current value. -/
def get (p : Property) : Value := p.value

/-- The property after storing a value. -/
def set (_p : Property) (v : Value) : Property := ⟨v⟩

/-- The description of the property. -/
def describe (label : TargetId → String) (p : Property) : String :=
  "Property(" ++ p.value.describe label ++ ")"

@[simp] theorem get_set (p : Property) (v : Value) : (p.set v).get = v := rfl

end Property

end TargetBuilder
