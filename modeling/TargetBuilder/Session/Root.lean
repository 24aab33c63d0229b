import TargetBuilder.World

/-!
# Sessions and their roots

Exactly one session of a hierarchy is its root. The others forward to it whatever concerns the context,
so what a session answers is what its root answers, as long as the root is there.

Outside any context the root target is the current one. It is configured, or it is made by the root
factory when it is first needed, and then kept.
-/

namespace TargetBuilder

/-- Makes a root session. -/
def World.openRoot (config : Config) : Action World SessionId := do
  let s ← .adding (·.addSession (.fresh none config))
  World.report (.rootCreated s)
  pure s

/-- Makes a child of a root session, with the same configuration. -/
def World.openChild (root : SessionId) : Action World SessionId := do
  let config := ((← .read).session root).config
  let s ← .adding (·.addSession (.fresh (some root) config))
  World.report (.childCreated root s)
  pure s

namespace SessionId

/-- What a session looks like now. -/
def state (s : SessionId) : Action World Session := .reads (·.session s)

/-- Changes a session. -/
def change (s : SessionId) (f : Session → Session) : Action World Unit :=
  .modify (·.updateSession s f)

/-- The root of the hierarchy; there is no context when it is gone. -/
def root (s : SessionId) : Action World SessionId := do
  match (← .read).rootOf? s with
  | some r => pure r
  | none => .fail .noContext

/-- Makes the root target of a root session that has none yet. -/
def synthesizeRoot (r : SessionId) (factory : RootFactoryId) : Action World (Option TargetId) := do
  match ← World.callRootFactory factory with
  | none => pure none
  | some t => do
    World.report (.rootSynthesized r t)
    r.change ({ · with synthesized := some t })
    pure (some t)

/-- The root target of a root session: the configured one, or one that is made once. -/
def ownRootTarget (r : SessionId) : Action World (Option TargetId) := do
  let session ← r.state
  match session.config.rootTarget, session.synthesized, session.config.rootFactory with
  | some t, _, _ => pure (some t)
  | none, some t, _ => pure (some t)
  | none, none, some factory => r.synthesizeRoot factory
  | none, none, none => pure none

/-- The root target, if the root is there and has one. -/
def rootTarget (s : SessionId) : Action World (Option TargetId) := do
  match (← .read).rootOf? s with
  | some r => r.ownRootTarget
  | none => pure none

/-- What a root session configures: the current target, or outside any context the root target. -/
def enclosing (r : SessionId) : Action World (Option TargetId) := do
  match (← r.state).frame.target with
  | some t => pure (some t)
  | none => r.ownRootTarget

/-- The object that is being configured. -/
def target (s : SessionId) : Action World TargetId := do
  match ← (← s.root).enclosing with
  | some t => pure t
  | none => .fail .noContext

/-- What the root of a session looks like now, if it is there. -/
def rootState (s : SessionId) : Action World (Option Session) := do
  let w ← .read
  pure ((w.rootOf? s).map w.session)

/-- The stage of life of the root. -/
def lifecycle (s : SessionId) : Action World Lifecycle := do
  match ← s.rootState with
  | some root => pure root.lifecycle
  | none => pure .initial

/-- What the session looks like from outside. -/
def report (s : SessionId) : Action World Report := do
  let target ← Action.attempt s.target
  let root ← s.rootState
  let lifecycle ← s.lifecycle
  pure
    { target
      parent := root.bind (·.frame.parent)
      provider := (root.bind (·.frame.provider)).map (·.number)
      inContext := root.any (·.topLevel.isSome)
      lifecycle
      pending := (root.map (·.queue.length)).getD 0 }

end SessionId

end TargetBuilder
