import TargetBuilder.Text.Description
import TargetBuilder.Text.Quoted

/-!
# Target types

A type of target has a name and the names of more general types, the nearest first. What is registered
for a more general type serves the types below it that have nothing of their own.
-/

namespace TargetBuilder

/-- A type of target. -/
structure TargetType where
  name : String
  ancestors : List String
  deriving DecidableEq, Repr, Inhabited

namespace TargetType

/-- The name followed by the ancestors. -/
def lineage (t : TargetType) : List String := t.name :: t.ancestors

/-- Whether the type is `name` or descends from it. -/
def isA (t : TargetType) (name : String) : Bool := t.lineage.contains name

/-- The description of the type. -/
def describe (t : TargetType) : String :=
  Text.record "TargetType"
    [("name", Text.quoted t.name), ("ancestors", Text.list (t.ancestors.map Text.quoted))]

end TargetType

end TargetBuilder
