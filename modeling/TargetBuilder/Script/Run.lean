import TargetBuilder.Guard
import TargetBuilder.Session.Description

/-!
# Running scripts

The statements of a block run one after the other; the first fault ends the block. Every statement
leaves a line in the log when it ends with a value or with a fault, so what it did stands before it.

A statement that names a session works on that session, and fails if there is none. The statements of
a whole script work on the session `main`, and a fault of one of them does not stop the next.
-/

namespace TargetBuilder

namespace Script

/-! ## Operands -/

/-- The value of an expression. -/
def eval (env : Env) (e : Expr) : Action World Value := .reads fun w => e.eval w.named env.args

/-- The target that an expression means, if it means one. -/
def evalTarget (env : Env) (e : Expr) : Action World (Option TargetId) := do
  pure (← eval env e).target?

/-- The arguments of a call. -/
def evalArgs (env : Env) : Args → Action World (List Value)
  | .received => pure env.args
  | .given items => .reads fun w => Expr.evalList w.named env.args items

/-- The request that a value makes: a target stands for itself, and a text is a token. -/
def requestOf : Value → Request
  | .target t => .target t
  | .text token => .token token
  | _ => .token ""

/-- The request that an expression makes. -/
def evalRequest (env : Env) (e : Expr) : Action World Request := do
  pure (requestOf (← eval env e))

/-- The block that the surrounding operation received; it can be taken once. -/
def takeReceived (env : Env) : Action World (Option Task) := do
  match env.block with
  | none => pure none
  | some b => do
    let kept := (← .read).blocks.get b.index
    .modify fun w => { w with blocks := w.blocks.update b.index fun _ => none }
    pure kept

/-- The work of a block, if there is any. -/
def takeBlock (env : Env) : Block → Action World (Option Task)
  | .absent => pure none
  | .received => takeReceived env
  | .given body => pure (some (.script body env))

/-- Runs the work of a block, if there is any. -/
def performBlock (R : Runner) (block : Option Task) (s : SessionId) : Action World Unit :=
  match block with
  | some task => R.perform task s
  | none => pure ()

/-- Runs a block for its value: that of its last statement, if it is written out. -/
def blockValue (R : Runner) (env : Env) (s : SessionId) : Block → Action World Value
  | .given body => R.exec (.script body env) s
  | block => do
    performBlock R (← takeBlock env block) s
    pure .nil

/-- Runs a block a number of times. -/
def repeatBlock (R : Runner) (env : Env) (s : SessionId) (block : Block) :
    Nat → Action World Unit
  | 0 => pure ()
  | times + 1 => do
    performBlock R (← takeBlock env block) s
    repeatBlock R env s block times

/-! ## Sessions by name -/

/-- Makes what a configuration describes. -/
def configure (c : ConfigSpec) : Action World Config := do
  let registry ←
    match c.registry with
    | some name => Action.adding (·.registryNamed name)
    | none => Action.adding (·.addRegistry)
  let rootFactory ←
    match c.factory with
    | some f => do pure (some (← Action.adding (·.addRootFactory f.answer)))
    | none => pure none
  let w ← .read
  pure
    { naming := c.naming
      rootTarget := c.root.bind w.named
      rootFactory
      lookup := c.lookup.map fun entries token => entries.lookup token
      registry
      maxPasses := c.maxPasses }

/-- Keeps a session under a name. -/
def keep (name : String) (s : SessionId) : Action World Unit :=
  .modify fun w => { w with handles := w.handles.insert name s }

/-- Makes a root session and keeps it under a name. -/
def openNamed (name : String) (config : Config) : Action World Unit := do
  keep name (← World.openRoot config)

/-- Forgets a name; whether a session was kept under it. -/
def forget (name : String) : Action World Bool := do
  let known := (← .read).handles.contains name
  .modify fun w => { w with handles := w.handles.erase name }
  pure known

/-! ## What the verbs do -/

/-- A natural number as a value. -/
def natural (n : Nat) : Value := .int (Int64.ofNat n)

/-- Enters contexts inside each other, `depth` of them, and runs a block in the innermost. -/
def nest (R : Runner) (env : Env) (places : List Expr) (block : Option Task) :
    Nat → SessionId → Action World Unit
  | 0, s => performBlock R block s
  | depth + 1, s => do
    let request ← evalRequest env (places.getD ((depth + 1) % places.length) .nil)
    let _ ← s.enter R request (nest R env places block depth)
    pure ()

/-- Runs a block if a session is at a stage of its life. -/
def gate (R : Runner) (env : Env) (s : SessionId) (stage : Lifecycle) (block : Block) :
    Action World Value := do
  let task ← takeBlock env block
  if (← s.lifecycle) = stage then performBlock R task s
  pure .nil

/-- Who a session is: its number, whether it is a root, its root, and whether that is itself. -/
def identity (s : SessionId) : Action World Value := do
  let root ← s.root
  let isRoot := (← s.state).isRoot
  pure (.list [natural s.number, .bool isRoot, natural root.number, .bool (root == s)])

/-- The description of a subject. -/
def describe (env : Env) (s : SessionId) : Subject → Action World String
  | .session => .reads (·.describeSession s)
  | .config => .reads fun w => w.describeConfig (w.session s).config
  | .parent => do
    let root ← s.rootState
    .reads (·.describeParent (root.bind (·.frame.parent)))
  | .lifecycle => do
    pure (← s.lifecycle).describe
  | .target e => do
    match ← evalTarget env e with
    | some t => .reads (·.label t)
    | none => pure "none"
  | .base e => do
    match ← evalTarget env e with
    | some t => .reads (·.describeBase t)
    | none => pure "none"
  | .context none => pure (Text.option none)
  | .context (some e) => do
    let request ← evalRequest env e
    .reads fun w => Text.option (some (request.describe w.label))
  | .provider number => .reads (·.describeProviderNumbered number)

/-- Runs a block while a name is marked as in flight on a target, unless it is so already. -/
def hold (t : TargetId) (name : String) (block : Action World Value) : Action World Value := do
  if ← World.launch t name then do
    World.emit (.held true)
    block.ensuring fun _ w => w.land t name
  else do
    World.emit (.held false)
    block

/-- Whether a target is of the catalogue type with a name, or of a described type for any other name. -/
def isOfType (t : Target) (name : String) : Bool :=
  match Catalogue.find? name with
  | some _ => t.origin == .catalogue name
  | none => t.origin == .described

/-- Registers a provider factory. -/
def register (s : SessionId) (factory : ProviderFactory) (registry : Option String) :
    Action World Unit := do
  let r ←
    match registry with
    | some name => Action.adding (·.registryNamed name)
    | none => do pure (← s.state).config.registry
  World.report (.factoryRegistered factory.type)
  .modify (·.updateRegistry r (·.register factory))

/-- What a registry shows about itself and about a type. -/
def inspectRegistry (r : Registry) (type : String) : Value :=
  .list
    [ .bool (r.factories.contains type), natural r.size, .bool (r.size == 0), .text r.describe ]

/-- The provider for a target under the root of a session. -/
def providerFor (R : Runner) (s : SessionId) (t : TargetId) : Action World (Option ProviderId) := do
  let root ← s.root
  World.holding root (root.provide R t)

/-- Runs an operation of the provider for a target. Without a provider the block is not taken. -/
def providerInvoke (R : Runner) (env : Env) (s : SessionId) (t : TargetId) (name : String)
    (args : Args) (block : Block) : Action World Value := do
  let root ← s.root
  World.holding root do
    match ← providerFor R s t with
    | none => pure .nil
    | some p => do
      let offered := ((← .read).provider p).offers name
      World.emit (.offered offered)
      Capability.invoke R p name (← evalArgs env args) (← takeBlock env block)

/-- Work that defers itself as often as is left, and notes that it ran. -/
def runChain (s : SessionId) (times : Option Nat) : Action World Unit := do
  World.emit (.rescheduled times)
  match times with
  | some 0 => pure ()
  | some (n + 1) => s.schedule none (some (.chain (some n)))
  | none => s.schedule none (some (.chain none))

/-- Goes on with the target that an expression means; the answer is no value if it means none. -/
def withTarget (env : Env) (e : Expr) (f : TargetId → Action World Value) : Action World Value := do
  match ← evalTarget env e with
  | some t => f t
  | none => pure .nil

/-- Does what a verb says. -/
def perform (R : Runner) (env : Env) (s : SessionId) : Verb → Action World Value
  | .apply name args block => do
    s.apply R name (← evalArgs env args) (← takeBlock env block)
  | .guarded name args block => do
    s.guardedApply R name (← evalArgs env args) (← takeBlock env block)
  | .call name args => do
    s.call R name (← evalArgs env args) none
  | .callWith name args block => do
    let task ← takeBlock env block
    s.call R name (← evalArgs env args) (some (task.getD .idle))
  | .enter place block => do
    let request ← evalRequest env place
    let task ← takeBlock env block
    pure (.target (← s.enter R request (performBlock R task)))
  | .context place => do
    pure (.target (← s.context (← evalRequest env place)))
  | .nest places depth block => do
    nest R env places (← takeBlock env block) depth s
    pure .nil
  | .defer place block => do
    let request ←
      match place with
      | some e => do pure (some (← evalRequest env e))
      | none => pure none
    s.schedule request (← takeBlock env block)
    pure .nil
  | .deferOn place block => do
    let request ← evalRequest env place
    let task ← takeBlock env block
    s.schedule (some request) (some (task.getD .idle))
    pure .nil
  | .reschedule times => do
    s.schedule none (some (.chain times))
    pure .nil
  | .initial block => gate R env s .initial block
  | .reapply block => gate R env s .active block
  | .always block => do
    performBlock R (← takeBlock env block) s
    pure .nil
  | .run block => blockValue R env s block
  | .loop block times => do
    repeatBlock R env s block times
    pure .nil
  | .rescue block => do
    match ← Action.capture (blockValue R env s block) with
    | .error .unwound => pure (.text "panicked")
    | result => .ofResult result
  | .log text => do
    World.emit (.text text)
    pure .nil
  | .value e => eval env e
  | .raise fault => .fail fault
  | .panic => .stop .unwound
  | .state => do
    World.emit (.reported (← s.report))
    pure .nil
  | .rootTarget => do
    match ← s.rootTarget with
    | some t => pure (.target t)
    | none => pure .nil
  | .identity => identity s
  | .describe none => pure .nil
  | .describe (some subject) => do
    pure (.text (← describe env s subject))
  | .send e name args => withTarget env e fun t => do
    World.send t name (← evalArgs env args)
  | .exposes e name count => withTarget env e fun t => do
    let target := (← .read).target t
    World.emit (.exposed (target.arityOf name) target.appliesDeferred)
    pure (.bool (target.respondsTo name count))
  | .cast e name => withTarget env e fun t => do
    pure (.bool (isOfType ((← .read).target t) name))
  | .inFlight e name => withTarget env e fun t => do
    pure (.bool (((← .read).target t).metadata.isInFlight name))
  | .hold e name block => withTarget env e fun t =>
    hold t name (blockValue R env s block)
  | .session name config => do
    openNamed name (← configure config)
    pure .nil
  | .withConfig name => do
    openNamed name { (← s.state).config with maxPasses := some 1 }
    pure .nil
  | .child name => do
    keep name (← World.openChild (← s.root))
    pure .nil
  | .drop name => do
    pure (.bool (← forget name))
  | .sameSession name => do
    pure (.bool ((← .read).handles.get? name == some s))
  | .register type methods setup registry => do
    register s ⟨type, .ofList methods, setup⟩ registry
    pure .nil
  | .registry name => do
    let w ← .read
    pure (inspectRegistry (w.registry (w.session s).config.registry) name)
  | .providerFor e => withTarget env e fun t => do
    match ← providerFor R s t with
    | some p => pure (natural p.number)
    | none => pure .nil
  | .providerInvoke e name args block => withTarget env e fun t =>
    providerInvoke R env s t name args block

/-! ## Statements and blocks -/

/-- Notes how a statement ended, and swallows a fault where that is wanted. -/
def conclude (st : Statement) (x : Action World Value) : Action World Value := do
  -- a statement that is unwound leaves no line
  match ← Action.capture x with
  | .ok v => do
    World.emit (.finished st.verb.word (.ok v))
    pure v
  | .error (.fault f) => do
    World.emit (.finished st.verb.word (.error f))
    if st.attempt then pure .nil else .fail f
  | .error e => .stop e

/--
Runs a statement on the session that is kept under a name. If there is none, the statement fails, and
not even a statement that swallows its faults swallows that.
-/
def runOn (R : Runner) (env : Env) (name : String) (st : Statement) : Action World Value := do
  match (← .read).handles.get? name with
  | some s => World.holding s (conclude st (perform R env s st.verb))
  | none => do
    World.emit (.sessionMissing st.verb.word)
    .fail .noContext

/-- Runs a statement, on a given session unless it names one. -/
def runStatement (R : Runner) (env : Env) (s : SessionId) (st : Statement) : Action World Value :=
  match st.on with
  | some name => runOn R env name st
  | none => conclude st (perform R env s st.verb)

/-- Runs statements one after the other; the value of the last, or `last` if there is none. -/
def runBody (R : Runner) (env : Env) (s : SessionId) (last : Value) :
    List Statement → Action World Value
  | [] => pure last
  | st :: rest => do
    let v ← runStatement R env s st
    runBody R env s v rest

/-- Runs a task on a session. -/
def runTask (R : Runner) : Task → SessionId → Action World Value
  | .script body env, s => runBody R env s .nil body
  | .chain times, s => do
    runChain s times
    pure .nil

/-- Runs a task on a session, with a bound on the nesting of tasks. -/
def exec : Nat → Task → SessionId → Action World Value
  | 0, _, _ => .stop .outOfFuel
  | fuel + 1, task, s => runTask ⟨fuel, exec fuel⟩ task s

/-- The runner that bounds the nesting of tasks by `fuel`. -/
def runner (fuel : Nat) : Runner := ⟨fuel, exec fuel⟩

theorem exec_succ (fuel : Nat) (task : Task) (s : SessionId) :
    exec (fuel + 1) task s = runTask (runner fuel) task s := rfl

/-! ## Scripts -/

/-- The name of the session that a script works on. -/
def mainName : String := "main"

/--
Runs the statements of a script. That one of them fails or unwinds does not keep the next from running.
-/
def runAll (R : Runner) : List Statement → Action World Unit
  | [] => pure ()
  | st :: rest => do
    match ← Action.capture (runOn R .empty (st.on.getD mainName) st) with
    | .error .outOfFuel => .stop .outOfFuel
    | _ => runAll R rest

/-- Makes the session `main` and runs a script on it. -/
def run (fuel : Nat) (config : ConfigSpec) (script : List Statement) : Action World Unit := do
  openNamed mainName (← configure config)
  runAll (runner fuel) script

/-- How deep tasks may nest, and how many passes a build may take. -/
def depthBound : Nat := 1000000

/-- The world after a script ran in it. -/
def after (w : World) (config : ConfigSpec) (script : List Statement) : World :=
  ((run depthBound config script).run w).2

/-- The lines of the log that are shown, with what the engine traces or without it. -/
def shownLog (traced : Bool) (w : World) : List Entry :=
  w.log.toList.filter fun e => traced || !e.isTrace

end Script

end TargetBuilder
