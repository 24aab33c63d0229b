import TargetBuilder.Resolve

/-!
# Guarded calls

An operation of a provider often hands its own name back, so that the target gets it too. A guarded
call marks its name as in flight on the target for as long as it takes; a guarded call of a name that
is in flight on the target goes past the provider to the target itself.

Names of the operations of a session itself are reserved. A call of a reserved name is guarded.
-/

namespace TargetBuilder

/-- The names of the operations of a session, in ascending order. -/
def reservedNames : List String :=
  ["always", "apply", "context", "deferred", "initial", "parent", "reapply", "root", "target"]

/-- Whether a name is reserved. -/
def isReserved (name : String) : Bool := reservedNames.contains name

namespace SessionId

/-- Applies a name to the current target, past the provider if the name is in flight there. -/
def guardedApply (R : Runner) (s : SessionId) (name : String) (args : List Value)
    (block : Option Task) : Action World Value := do
  let t ← s.receiver name
  if ← World.launch t name then
    (s.apply R name args block).ensuring fun _ w => w.land t name
  else do
    World.report (.bypassing name)
    -- a translated name is resolved from the start, provider included
    s.resolveDirect R (fun translated => s.apply R translated args block) t name args block

/-- Calls a name on the current target. -/
def call (R : Runner) (s : SessionId) (name : String) (args : List Value) (block : Option Task) :
    Action World Value :=
  if isReserved name then s.guardedApply R name args block else s.apply R name args block

end SessionId

end TargetBuilder
