import TargetBuilder.Context

/-!
# Descriptions of sessions and what belongs to them

How configurations, frames, targets and providers are shown. Targets are shown by their types and
names, sessions by their numbers; hooks only by whether they are there.
-/

namespace TargetBuilder.World

/-- The description of the identity of a target. -/
def describeIdentity (w : World) (t : TargetId) : String :=
  "TargetId(" ++ (w.target t).name ++ ")"

/-- The description of a configuration. -/
def describeConfig (w : World) (c : Config) : String :=
  Text.openRecord "SessionConfig"
    [ ("root_target", Text.option (c.rootTarget.map w.describeIdentity))
    , ("root_factory", Text.flag c.rootFactory.isSome)
    , ("lookup", Text.flag c.lookup.isSome)
    , ("registry", (w.registry c.registry).describe)
    , ("max_deferred_passes", Text.option (c.maxPasses.map toString)) ]

/-- The description of a session. -/
def describeSession (w : World) (s : SessionId) : String := (w.session s).describe s

/-- The description of the target that was current when a context was entered. -/
def describeParent (w : World) (parent : Option TargetId) : String :=
  Text.option (parent.map fun t => "ParentLink(" ++ w.label t ++ ")")

/-- The description of the base of a target, which only targets of described types show. -/
def describeBase (w : World) (t : TargetId) : String :=
  match (w.target t).origin with
  | .described => Text.record "TargetBase" [("id", w.describeIdentity t)]
  | .catalogue _ => "none"

/-- The description of a provider and of its session. -/
def describeProvider (w : World) (p : Provider) : String :=
  let names := p.operations.keys.mergeSort fun a b => decide (a ≤ b)
  Text.record "ProviderMethods"
      [("session", w.describeSession p.session), ("methods", Text.list (names.map Text.quoted))]
    ++ " for " ++ w.describeSession p.session

/-- The description of the provider with a number, if there is one. -/
def describeProviderNumbered (w : World) (number : Nat) : String :=
  if number = 0 then "none"
  else
    match w.providers.get? (number - 1) with
    | some p => w.describeProvider p
    | none => "none"

end TargetBuilder.World
