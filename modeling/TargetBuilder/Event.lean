import TargetBuilder.Fault
import TargetBuilder.Metadata

/-!
# Events

What the engine reports while it works. An event has a level, belongs to a channel, and carries a
message with named fields; a span is reported when it is entered and when it is left. Events name
sessions and targets by their identities, so that they can be compared; only `fields` renders them.
-/

namespace TargetBuilder

/-- How important an event is. -/
inductive Level where
  | trace
  | debug
  | warn
  deriving DecidableEq, Repr

/-- The name of the level. -/
def Level.name : Level → String
  | trace => "TRACE"
  | debug => "DEBUG"
  | warn => "WARN"

/-- A stretch of work that has a beginning and an end. -/
inductive Span where
  /-- An outermost context. -/
  | build
  /-- The work that was deferred in an outermost context. -/
  | drain
  deriving DecidableEq, Repr

/-- The name of the span. -/
def Span.name : Span → String
  | build => "trellis::session"
  | drain => "trellis::drain"

/-- A way in which a call reaches a target. -/
inductive Convention where
  /-- The name joined with the keywords of the call. -/
  | longForm
  /-- The name as a selector without arguments. -/
  | probe
  /-- The setter for the name. -/
  | setter
  /-- The assignment for the name. -/
  | assignment
  /-- The name as a selector with arguments. -/
  | combined
  /-- The setter for the name, sent to a target that does not expose its setters. -/
  | unexposedSetter
  deriving DecidableEq, Repr

/-- Something that happened. -/
inductive Event where
  | rootCreated (session : SessionId)
  | childCreated (root child : SessionId)
  | rootSynthesized (session : SessionId) (target : TargetId)
  | entering (session : SessionId) (target : TargetId) (outermost : Bool)
  | tokenResolved (token : String) (target : TargetId)
  | scheduled (session : SessionId) (target : TargetId)
  | draining (pass entries : Nat) (origin : TargetId)
  | settled (passes : Nat)
  | abandoned (entries : Nat) (fault : Fault)
  | unsettled (passes dropped : Nat)
  | alreadyInFlight (name : String)
  | invoking (type selector : String) (count : Nat)
  | providerLongForm (selector : String)
  | providerMethod (name : String)
  | providerInvoked (name : String) (count : Nat)
  | switching (selector : String) (next : TargetId)
  | resolved (convention : Convention) (spelling : String)
  | unmatched (selector : String) (target : TargetId)
  | retrying (name translated : String)
  | bypassing (name : String)
  | factoryRegistered (type : String)
  | factoryMissing (type : String)
  | providerCreated (session : SessionId) (type : String) (target : TargetId)
  deriving DecidableEq, Repr

namespace Event

/-- The value of a field of an event. -/
inductive FieldValue where
  | text (s : String)
  | number (n : Nat)
  | flag (b : Bool)
  deriving DecidableEq, Repr

/-- The level of the event. -/
def level : Event → Level
  | rootCreated _ | rootSynthesized _ _ | entering _ _ _ | draining _ _ _ | settled _
  | abandoned _ _ | factoryRegistered _ | providerCreated _ _ _ => .debug
  | unsettled _ _ => .warn
  | _ => .trace

/-- The channel that the event belongs to. -/
def channel : Event → String
  | rootCreated _ | childCreated _ _ | rootSynthesized _ _ | entering _ _ _ | tokenResolved _ _ =>
    "trellis::context"
  | scheduled _ _ | draining _ _ _ | settled _ | abandoned _ _ => "trellis::deferred"
  | unsettled _ _ | alreadyInFlight _ => "trellis_core"
  | invoking _ _ _ => "trellis_core::target"
  | providerLongForm _ | providerMethod _ | providerInvoked _ _ | switching _ _ | resolved _ _
  | unmatched _ _ | retrying _ _ | bypassing _ => "trellis::dispatch"
  | factoryRegistered _ | factoryMissing _ | providerCreated _ _ _ => "trellis::registry"

/-- The message of a call that was resolved. -/
def resolvedMessage : Convention → String
  | .longForm => "long form"
  | .probe => "probe"
  | .setter => "setter"
  | .assignment => "assignment"
  | .combined => "combined accessor"
  | .unexposedSetter => "deferred setter"

/-- Whether the convention spells a name of the call as it is. -/
def keepsName : Convention → Bool
  | .probe | .combined => true
  | _ => false

/-- The message of the event. -/
def message : Event → String
  | rootCreated _ => "created root session"
  | childCreated _ _ => "created child session"
  | rootSynthesized _ _ => "synthesized root target"
  | entering _ _ _ => "entering context"
  | tokenResolved _ _ => "resolved token"
  | scheduled _ _ => "scheduled deferred block"
  | draining _ _ _ => "draining deferred pass"
  | settled _ => "deferred queue settled"
  | abandoned _ _ => "top-level block failed, discarding deferred work"
  | unsettled _ _ => "deferred queue did not settle"
  | alreadyInFlight _ => "name already in flight"
  | invoking _ _ _ => "invoking selector"
  | providerLongForm _ => "provider long form"
  | providerMethod _ => "provider method"
  | providerInvoked _ _ => "invoking provider method"
  | switching _ _ => "switching context"
  | resolved convention _ => resolvedMessage convention
  | unmatched _ _ => "no convention matched, sending setter"
  | retrying _ _ => "retrying translated name"
  | bypassing _ => "re-entrant call, bypassing provider"
  | factoryRegistered _ => "registered provider factory"
  | factoryMissing _ => "no provider factory in lineage"
  | providerCreated _ _ _ => "created capability provider"

/-- A session in a field. -/
def sessionField (s : SessionId) : FieldValue := .text (toString s.number)

/-- The fields of the event by name, with targets shown by `label`. -/
def fields (label : TargetId → String) : Event → List (String × FieldValue)
  | rootCreated s => [("session", sessionField s)]
  | childCreated root child => [("root", sessionField root), ("child", sessionField child)]
  | rootSynthesized s t => [("session", sessionField s), ("root", .text (label t))]
  | entering s t outermost =>
    [("session", sessionField s), ("entered", .text (label t)), ("top_level", .flag outermost)]
  | tokenResolved token t => [("token", .text token), ("resolved", .text (label t))]
  | scheduled s t => [("session", sessionField s), ("on", .text (label t))]
  | draining pass entries origin =>
    [("pass", .number pass), ("entries", .number entries), ("origin", .text (label origin))]
  | settled passes => [("passes", .number passes)]
  | abandoned entries fault => [("abandoned", .number entries), ("error", .text fault.message)]
  | unsettled passes dropped => [("passes", .number passes), ("dropped", .number dropped)]
  | alreadyInFlight name => [("name", .text name)]
  | invoking type selector count =>
    [("target_type", .text type), ("selector", .text selector), ("argc", .number count)]
  | providerLongForm selector => [("selector", .text selector)]
  | providerMethod name => [("name", .text name)]
  | providerInvoked name count => [("name", .text name), ("argc", .number count)]
  | switching selector next => [("selector", .text selector), ("next", .text (label next))]
  | resolved convention spelling =>
    [(if keepsName convention then "name" else "selector", .text spelling)]
  | unmatched selector t => [("selector", .text selector), ("on", .text (label t))]
  | retrying name translated => [("name", .text name), ("translated", .text translated)]
  | bypassing name => [("name", .text name)]
  | factoryRegistered type => [("type_name", .text type)]
  | factoryMissing type => [("type_name", .text type)]
  | providerCreated s type t =>
    [("session", sessionField s), ("type_name", .text type), ("for_target", .text (label t))]

end Event

end TargetBuilder
