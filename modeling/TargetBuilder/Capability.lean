import TargetBuilder.Session.Root
import TargetBuilder.Session.Runner

/-!
# Capability providers

The provider for a target under a root session is looked for in three steps: under the key that the
target's metadata holds for the root, then by the type of the target in the index of the registry, and
at last it is made by the factory of the most specific type in the target's lineage. The key that was
found is stored on the target.

A provider is made on a child session of the root. While its factory runs, the registry is not touched,
and the factory may use it.
-/

namespace TargetBuilder

namespace Capability

/-- The name of the slot that holds the key of a provider. -/
def slotName : String := "provider"

/-- The key of a provider that the metadata of a target holds for a root session. -/
def boundKey? (w : World) (root : SessionId) (t : TargetId) : Option Nat :=
  (w.target t).metadata.get? Slot.provider? root slotName

/-- Stores the key of a provider on a target. -/
def bind (root : SessionId) (t : TargetId) (key : Nat) : Action World Unit :=
  .modify (·.updateMetadata t (·.set root slotName (.provider key)))

/-- Runs a factory on a new session, and adds the provider. -/
def runFactory (R : Runner) (factory : ProviderFactory) (child : SessionId) :
    Action World ProviderId := do
  World.emit (.factoryRunning factory.type child (← child.state).isRoot)
  let _ ← Action.attempt (R.perform (.script factory.setup .empty) child)
  .adding (·.addProvider ⟨child, factory.operations⟩)

/-- Makes the provider for a target of a type by a factory, and records it. -/
def make (R : Runner) (registry : RegistryId) (root : SessionId) (t : TargetId) (type : String)
    (factory : ProviderFactory) : Action World ProviderId := do
  let child ← World.openChild root
  let p ← runFactory R factory child
  -- read only now: the factory may have recorded providers of its own
  let key := ((← .read).registry registry).nextKey
  .modify (·.updateRegistry registry (·.record ⟨root, type, p⟩))
  bind root t key
  World.report (.providerCreated root type t)
  pure p

/-- The provider for a target under a root session, if there is one or a factory for it. -/
def provide (R : Runner) (registry : RegistryId) (root : SessionId) (t : TargetId) :
    Action World (Option ProviderId) := do
  let w ← .read
  let store := w.registry registry
  let type := (w.target t).type
  match (boundKey? w root t).bind store.provider? with
  | some p => pure (some p)
  | none =>
    match store.index.get? (root, type.name) with
    | some key => do
      bind root t key
      pure (store.provider? key)
    | none =>
      match store.factoryFor type with
      | none => do
        World.report (.factoryMissing type.name)
        pure none
      | some factory => do
        let p ← make R registry root t type.name factory
        pure (some p)

/-- Runs an operation of a provider, handing it a block. -/
def invoke (R : Runner) (p : ProviderId) (name : String) (args : List Value)
    (block : Option Task) : Action World Value := do
  let provider := (← .read).provider p
  match provider.operations.get? name with
  | none => .fail (.unsupported name "provider")
  | some body => do
    World.report (.providerInvoked name args.length)
    World.emit (.operationRunning name args block.isSome)
    let kept ← .adding (·.addBlock block)
    R.exec (.script body ⟨args, some kept⟩) provider.session

end Capability

/-- The provider for a target under a root session, from the session's own registry. -/
def SessionId.provide (R : Runner) (root : SessionId) (t : TargetId) :
    Action World (Option ProviderId) := do
  Capability.provide R (← root.state).config.registry root t

end TargetBuilder
