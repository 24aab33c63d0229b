import TargetBuilder.Arena
import TargetBuilder.Session.State
import TargetBuilder.TargetType

/-!
# Capability registries

A capability provider supplies named operations for a type of target. A registry holds the factories
by the names of types, and the providers that were made. Providers are stored in the order in which
they were recorded, and a place in that order is the key under which a provider is found again; what was
recorded is never removed. For a root session and the name of a type, the index has the key of the
provider that was recorded last.
-/

namespace TargetBuilder

/-- Named operations on top of what targets expose. -/
structure Provider where
  /-- The session on which the operations run. -/
  session : SessionId
  operations : OrderedMap String (List Statement)

instance : Inhabited Provider := ⟨⟨default, .empty⟩⟩

/-- Whether the provider offers an operation. -/
def Provider.offers (p : Provider) (name : String) : Bool := p.operations.contains name

/-- What a provider is made from. -/
structure ProviderFactory where
  /-- The name of the type that the factory was registered for. -/
  type : String
  operations : OrderedMap String (List Statement)
  /-- What is done on the session of a new provider. -/
  setup : List Statement

/-- A provider that was made for a root session and a type of target. -/
structure Registration where
  root : SessionId
  type : String
  provider : ProviderId
  deriving DecidableEq, Repr

/-- Factories, and the providers that were made by them. -/
structure Registry where
  factories : OrderedMap String ProviderFactory
  registrations : Arena Registration
  /-- The key of the provider for a root session and a type. -/
  index : OrderedMap (SessionId × String) Nat

namespace Registry

/-- A registry without factories. -/
def empty : Registry := ⟨.empty, .empty, .empty⟩

instance : Inhabited Registry := ⟨empty⟩

/-- Registers a factory, in the place of the one that was registered for the same type. -/
def register (r : Registry) (f : ProviderFactory) : Registry :=
  { r with factories := r.factories.insert f.type f }

/-- The provider stored under a key. -/
def provider? (r : Registry) (key : Nat) : Option ProviderId :=
  (r.registrations.get? key).map (·.provider)

/-- The factory for the most specific type in a lineage. -/
def factoryFor (r : Registry) (type : TargetType) : Option ProviderFactory :=
  type.lineage.findSome? r.factories.get?

/-- The key that the next provider will get. -/
def nextKey (r : Registry) : Nat := r.registrations.size

/-- Records a provider that was made, under the next key. -/
def record (r : Registry) (entry : Registration) : Registry :=
  { r with
    registrations := r.registrations.push entry
    index := r.index.insert (entry.root, entry.type) r.nextKey }

theorem provider?_record (r : Registry) (entry : Registration) (key : Nat) :
    (r.record entry).provider? key =
      if key = r.nextKey then some entry.provider else r.provider? key := by
  change ((r.registrations.push entry).get? key).map (·.provider) =
    if key = r.registrations.size then _ else _
  rw [Arena.get?_push]
  by_cases h : key = r.registrations.size
  · rw [if_pos h, if_pos h]
    rfl
  · rw [if_neg h, if_neg h]
    rfl

theorem index_record (r : Registry) (entry : Registration) (place : SessionId × String) :
    (r.record entry).index.get? place =
      if place = (entry.root, entry.type) then some r.nextKey else r.index.get? place :=
  OrderedMap.get?_insert _ _ _ _

/-- How many providers were recorded. -/
def size (r : Registry) : Nat := r.registrations.size

/-- The description of a registry. -/
def describe (r : Registry) : String :=
  let factories := r.factories.keys.mergeSort fun a b => decide (a ≤ b)
  let providers := r.registrations.items.toList.map fun e =>
    "(" ++ e.root.describe ++ ", " ++ Text.quoted e.type ++ ")"
  Text.record "CapabilityRegistry"
    [("factories", Text.list (factories.map Text.quoted)), ("providers", Text.list providers)]

end Registry

end TargetBuilder
