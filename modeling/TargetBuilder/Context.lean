import TargetBuilder.Capability

/-!
# Contexts

Entering a context makes a target the current one while a block runs. What was current before is put
back however the block ends, and so is the mark that says whether a context is open.

The outermost context of a chain is a build. When its block has succeeded, the work that was deferred
runs, pass by pass: a pass takes all the work that is waiting, and what it defers waits for the next
pass. Each piece of work runs in a context of its own, inside the build. The build succeeds when no work
is left. When something fails, the work that is waiting is dropped, so none of it is left for a later
build.
-/

namespace TargetBuilder

/-- What a context is asked for: a target, or a token that stands for one. -/
inductive Request where
  | target (t : TargetId)
  | token (name : String)
  deriving DecidableEq, Repr

/-- The description of a request. -/
def Request.describe (label : TargetId → String) : Request → String
  | target t => "Target(" ++ label t ++ ")"
  | token name => "Token(" ++ Text.quoted name ++ ")"

namespace SessionId

/-! ## Requests -/

/-- Asks the look-up of a root session for a token. -/
def lookUp (root : SessionId) (rootTarget : TargetId) (token : String) :
    Action World (Option TargetId) := do
  match (← root.state).config.lookup with
  | none => pure none
  | some lookup => do
    World.emit (.lookedUp rootTarget token)
    let w ← .read
    pure ((lookup token).bind w.named)

/-- The target of a request on a root session. -/
def resolveRequest (root : SessionId) : Request → Action World TargetId
  | .target t => pure t
  | .token token => do
    match ← root.ownRootTarget with
    | none => .fail .noContext
    | some rootTarget =>
      match ← root.lookUp rootTarget token with
      | none => .fail (.targetNotFound token)
      | some t => do
        World.report (.tokenResolved token t)
        pure t

/-- The target of a request, without entering it. -/
def context (s : SessionId) (request : Request) : Action World TargetId := do
  (← s.root).resolveRequest request

/-! ## Frames and marks -/

/-- Runs an action with another frame, and puts the frame back. -/
def withFrame {α : Type} (root : SessionId) (frame : Frame) (x : Action World α) :
    Action World α := do
  let before := (← root.state).frame
  root.change ({ · with frame })
  x.ensuring fun _ w => w.updateSession root ({ · with frame := before })

/-- Whether a computation was given up, neither with a value nor with a fault. -/
def wasGivenUp {α : Type} : Except Stop α → Bool
  | .error (.fault _) => false
  | .error _ => true
  | .ok _ => false

/--
The session after a context was left: the earlier mark is back, and if the outermost context was given
up, no work is waiting.
-/
def leave (before : Option Bool) (givenUp : Bool) (s : Session) : Session :=
  { s with
    topLevel := before
    queue := if before.isNone && givenUp then [] else s.queue }

/-- Marks a context as open while an action runs, which is told whether the context is the outermost. -/
def inContext {α : Type} (root : SessionId) (x : Bool → Action World α) : Action World α := do
  let before := (← root.state).topLevel
  root.change ({ · with topLevel := some before.isNone })
  (x before.isNone).ensuring fun r w => w.updateSession root (leave before (wasGivenUp r))

theorem run_withFrame {α : Type} (root : SessionId) (frame : Frame) (x : Action World α)
    (w : World) :
    (root.withFrame frame x).run w =
      match x.run (w.updateSession root ({ · with frame })) with
      | (r, w') => (r, w'.updateSession root ({ · with frame := (w.session root).frame })) := rfl

theorem run_inContext {α : Type} (root : SessionId) (x : Bool → Action World α) (w : World) :
    (root.inContext x).run w =
      match (x (w.session root).topLevel.isNone).run
          (w.updateSession root ({ · with topLevel := some (w.session root).topLevel.isNone })) with
      | (r, w') =>
        (r, w'.updateSession root (leave (w.session root).topLevel (wasGivenUp r))) := rfl

/-- Runs a block with a target as the current one. -/
def visit (root : SessionId) (outermost : Bool) (t : TargetId) (provider : Option ProviderId)
    (block : SessionId → Action World Unit) : Action World Unit := do
  World.report (.entering root t outermost)
  -- outside any context this needs the root target, which may have to be made
  let parent ← root.enclosing
  root.withFrame ⟨some t, parent, provider⟩ (block root)

/-! ## Deferred work -/

/-- Takes all the work that is waiting. -/
def takeQueue (root : SessionId) : Action World (List Deferred) := do
  let waiting := (← root.state).queue
  root.change ({ · with queue := [] })
  pure waiting

/-- Drops the work that is waiting; how much there was. -/
def dropQueue (root : SessionId) : Action World Nat := do
  let dropped ← root.takeQueue
  pure dropped.length

/-- Runs one piece of work in a context of its own. -/
def enterDeferred (R : Runner) (root : SessionId) (work : Deferred) : Action World Unit := do
  let provider ← root.provide R work.target
  root.inContext fun outermost =>
    root.visit outermost work.target provider (R.perform work.task)

/-- Runs one piece of work, and drops what is waiting if it does not end with success. -/
def runDeferred (R : Runner) (root : SessionId) (work : Deferred) : Action World Unit := do
  match ← Action.capture (root.enterDeferred R work) with
  | .ok () => pure ()
  | .error e => do
    let _ ← root.dropQueue
    .stop e

/-- Whether the limit allows another pass after `passes` of them. -/
def allowsPass (limit : Option Nat) (passes : Nat) : Bool :=
  match limit with
  | none => true
  | some most => passes < most

/-- Makes passes over the waiting work until none is left; how many passes there were in all. -/
def runPasses (R : Runner) (root : SessionId) (origin : TargetId) :
    Nat → Nat → Action World Nat
  | 0, _ => .stop .outOfFuel
  | fuel + 1, passes => do
    let batch ← root.takeQueue
    if batch.isEmpty then pure passes
    else if allowsPass (← root.state).config.maxPasses passes then do
      World.report (.draining (passes + 1) batch.length origin)
      Action.each batch (root.runDeferred R)
      runPasses R root origin fuel (passes + 1)
    else do
      -- the batch is out of the queue already, so dropping the queue drops the rest
      let dropped ← root.dropQueue
      World.report (.unsettled passes (batch.length + dropped))
      .fail (.deferredOverflow passes)

/-- Runs the work that was deferred. -/
def drain (R : Runner) (root : SessionId) (origin : TargetId) : Action World Unit :=
  World.inSpan .drain do
    let passes ← root.runPasses R origin R.fuel 0
    if passes > 0 then World.report (.settled passes)

/-! ## Entering -/

/-- What follows the block of a build. -/
def complete (R : Runner) (root : SessionId) (t : TargetId) :
    Except Stop Unit → Action World Unit
  | .ok () => do
    root.drain R t
    root.change ({ · with lifecycle := .active })
  | .error (.fault f) => do
    let dropped ← root.dropQueue
    if dropped > 0 then World.report (.abandoned dropped f)
    .fail f
  | .error e => .stop e

/-- Runs the block of an outermost context, and what follows it. -/
def build (R : Runner) (root : SessionId) (t : TargetId) (provider : Option ProviderId)
    (block : SessionId → Action World Unit) : Action World Unit :=
  World.inSpan .build do
    let result ← Action.capture (root.visit true t provider block)
    root.complete R t result

/-- Runs a block on a root session with a target as the current one. -/
def enterTarget (R : Runner) (root : SessionId) (t : TargetId)
    (block : SessionId → Action World Unit) : Action World Unit := do
  -- the provider is made before the context is open
  let provider ← root.provide R t
  root.inContext fun outermost =>
    if outermost then root.build R t provider block
    else root.visit outermost t provider block

/-- Runs a block on the root of a session with the requested target as the current one. -/
def enter (R : Runner) (s : SessionId) (request : Request)
    (block : SessionId → Action World Unit) : Action World TargetId := do
  let root ← s.root
  World.holding root do
    let t ← root.resolveRequest request
    root.enterTarget R t block
    pure t

/-! ## Deferring -/

/-- The target that deferred work is meant for. -/
def deferralTarget (root : SessionId) : Option Request → Action World TargetId
  | some request => root.resolveRequest request
  | none => do
    match ← root.enclosing with
    | some t => pure t
    | none => .fail .invalidDeferred

/-- Puts off a task until the outermost context closes. -/
def schedule (s : SessionId) (request : Option Request) (task : Option Task) :
    Action World Unit := do
  match task with
  | none => .fail .blockRequired
  | some task => do
    let root ← s.root
    let target ← root.deferralTarget request
    World.report (.scheduled root target)
    root.change fun session => { session with queue := session.queue ++ [⟨target, task⟩] }

end SessionId

end TargetBuilder
