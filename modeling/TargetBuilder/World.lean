import TargetBuilder.Action
import TargetBuilder.Catalogue
import TargetBuilder.Event
import TargetBuilder.Registry

/-!
# The world

Everything that sessions work on: the targets, the sessions, the registries and their providers, the
names under which sessions and registries are kept, and the log of what happened. Targets, sessions and
providers are only ever added.

A root session lives while a name stands for it or something is running on it.
-/

namespace TargetBuilder

/-- A hook that supplies root targets. -/
structure RootFactory where
  /-- What is handed out at the call with a number, counted from one. -/
  answer : Nat → RootAnswer
  /-- How often the factory was called. -/
  calls : Nat

instance : Inhabited RootFactory := ⟨⟨fun _ => .declined, 0⟩⟩

/-- What a session looks like from outside. -/
structure Report where
  target : Except Fault TargetId
  parent : Option TargetId
  /-- The number of the provider. -/
  provider : Option Nat
  inContext : Bool
  lifecycle : Lifecycle
  pending : Nat

/-- A line of the log. -/
inductive Entry where
  | event (e : Event)
  | opened (span : Span)
  | closed (span : Span)
  /-- A selector was sent to a target of a described type. -/
  | sent (target : TargetId) (selector : String) (args : List Value)
  /-- A token was looked up against a root target. -/
  | lookedUp (root : TargetId) (token : String)
  /-- A root factory was called for the time with this number. -/
  | rootFactoryCalled (call : Nat)
  /-- A provider factory runs on a session. -/
  | factoryRunning (type : String) (session : SessionId) (isRoot : Bool)
  /-- An operation of a provider runs. -/
  | operationRunning (name : String) (args : List Value) (withBlock : Bool)
  | text (s : String)
  /-- Work that defers itself runs, with this many times to go. -/
  | rescheduled (times : Option Nat)
  | reported (report : Report)
  /-- A name was marked as in flight, or was so already. -/
  | held (marked : Bool)
  /-- Whether a provider offers an operation. -/
  | offered (b : Bool)
  /-- The arity of a selector, and whether the target applies setters later. -/
  | exposed (arity : Option Arity) (deferred : Bool)
  /-- A statement ended. -/
  | finished (word : String) (result : Except Fault Value)
  /-- A statement named a session that does not exist. -/
  | sessionMissing (word : String)

/-- Whether the line traces the work of the engine. -/
def Entry.isTrace : Entry → Bool
  | event _ | opened _ | closed _ => true
  | _ => false

/-- The state that sessions work on. -/
structure World where
  targets : Arena Target
  /-- The target that was made last under a name. -/
  targetNames : OrderedMap String TargetId
  /-- The types that were described, by the names under which targets of them are made. -/
  describedTypes : OrderedMap String TargetClass
  sessions : Arena Session
  handles : OrderedMap String SessionId
  registries : Arena Registry
  registryNames : OrderedMap String RegistryId
  providers : Arena Provider
  rootFactories : Arena RootFactory
  /-- The blocks that operations of providers were handed and have not used. -/
  blocks : Arena (Option Task)
  /-- The sessions that something is running on, the innermost first. -/
  running : List SessionId
  log : Array Entry

namespace World

/-- The world without anything, for the given described types. -/
def empty (describedTypes : OrderedMap String TargetClass) : World :=
  { targets := .empty, targetNames := .empty, describedTypes
    sessions := .empty, handles := .empty
    registries := .empty, registryNames := .empty
    providers := .empty, rootFactories := .empty, blocks := .empty
    running := [], log := #[] }

instance : Inhabited World := ⟨empty .empty⟩

/-! ## Looking things up -/

/-- The target with an identity. -/
def target (w : World) (t : TargetId) : Target := w.targets.get t.index

/-- The session with an identity. -/
def session (w : World) (s : SessionId) : Session := w.sessions.get s.index

/-- The registry with an identity. -/
def registry (w : World) (r : RegistryId) : Registry := w.registries.get r.index

/-- The provider with an identity. -/
def provider (w : World) (p : ProviderId) : Provider := w.providers.get p.index

/-- The target with a name. -/
def named (w : World) (name : String) : Option TargetId := w.targetNames.get? name

/-- A target as it is shown. -/
def label (w : World) (t : TargetId) : String := (w.target t).label

/-- Whether a root session still exists. -/
def isAlive (w : World) (s : SessionId) : Bool :=
  w.running.contains s || w.handles.values.contains s

/-- The root of the hierarchy of a session, unless it is gone. -/
def rootOf? (w : World) (s : SessionId) : Option SessionId :=
  match (w.session s).root with
  | none => some s
  | some r => if w.isAlive r then some r else none

/-! ## Changing things -/

/-- Adds a line to the log. -/
def write (w : World) (e : Entry) : World := { w with log := w.log.push e }

/-- Changes a target. -/
def updateTarget (w : World) (t : TargetId) (f : Target → Target) : World :=
  { w with targets := w.targets.update t.index f }

/-- Changes the metadata of a target. -/
def updateMetadata (w : World) (t : TargetId) (f : Metadata → Metadata) : World :=
  w.updateTarget t fun target => { target with metadata := f target.metadata }

/-- Changes a session. -/
def updateSession (w : World) (s : SessionId) (f : Session → Session) : World :=
  { w with sessions := w.sessions.update s.index f }

/-- Changes a registry. -/
def updateRegistry (w : World) (r : RegistryId) (f : Registry → Registry) : World :=
  { w with registries := w.registries.update r.index f }

/-- Adds a target, which takes over its name. -/
def addTarget (w : World) (t : Target) : TargetId × World :=
  let id : TargetId := ⟨w.targets.size⟩
  (id, { w with targets := w.targets.push t, targetNames := w.targetNames.insert t.name id })

/-- Adds a session. -/
def addSession (w : World) (s : Session) : SessionId × World :=
  (⟨w.sessions.size⟩, { w with sessions := w.sessions.push s })

/-- Adds a registry. -/
def addRegistry (w : World) : RegistryId × World :=
  (⟨w.registries.size⟩, { w with registries := w.registries.push .empty })

/-- The registry that is kept under a name; a new one if there is none yet. -/
def registryNamed (w : World) (name : String) : RegistryId × World :=
  match w.registryNames.get? name with
  | some r => (r, w)
  | none =>
    match w.addRegistry with
    | (r, w') => (r, { w' with registryNames := w'.registryNames.insert name r })

/-- Adds a provider. -/
def addProvider (w : World) (p : Provider) : ProviderId × World :=
  (⟨w.providers.size⟩, { w with providers := w.providers.push p })

/-- Adds a root factory, which was not called yet. -/
def addRootFactory (w : World) (answer : Nat → RootAnswer) : RootFactoryId × World :=
  (⟨w.rootFactories.size⟩, { w with rootFactories := w.rootFactories.push ⟨answer, 0⟩ })

/-- Keeps a block for the operation that it was handed to. -/
def addBlock (w : World) (block : Option Task) : BlockId × World :=
  (⟨w.blocks.size⟩, { w with blocks := w.blocks.push block })

/-! ## What is seen after a change -/

@[simp] theorem session_write (w : World) (e : Entry) (s : SessionId) :
    (w.write e).session s = w.session s := rfl

/-- A session is seen where the sessions are. -/
theorem session_congr {a b : World} (h : b.sessions = a.sessions) (s : SessionId) :
    b.session s = a.session s := by
  unfold session
  rw [h]

@[simp] theorem target_write (w : World) (e : Entry) (t : TargetId) :
    (w.write e).target t = w.target t := rfl

theorem session_updateSession_self (w : World) {s : SessionId} (f : Session → Session)
    (h : s.index < w.sessions.size) : (w.updateSession s f).session s = f (w.session s) :=
  w.sessions.get_update_self f h

theorem session_updateSession_of_ne (w : World) {s other : SessionId} (f : Session → Session)
    (h : other ≠ s) : (w.updateSession s f).session other = w.session other := by
  apply Arena.get_update_of_ne
  intro hi
  apply h
  cases s
  cases other
  simp_all

/-- A session that is not there looks like a fresh root session. -/
theorem session_of_size_le (w : World) {s : SessionId} (h : w.sessions.size ≤ s.index) :
    w.session s = .fresh none default := by
  unfold session Arena.get
  rw [(w.sessions.get?_eq_none_iff s.index).mpr h]
  rfl

theorem session_updateSession (w : World) (s other : SessionId) (f : Session → Session) :
    (w.updateSession s f).session other =
      if other = s ∧ s.index < w.sessions.size then f (w.session s) else w.session other := by
  obtain ⟨s⟩ := s
  obtain ⟨other⟩ := other
  simp only [updateSession, session, w.sessions.get_update, SessionId.mk.injEq]

theorem size_updateSession (w : World) (s : SessionId) (f : Session → Session) :
    (w.updateSession s f).sessions.size = w.sessions.size := w.sessions.size_update _ _

/-- What a change of a session leaves alone looks the same on every session. -/
theorem session_updateSession_same {β : Type} (w : World) (s other : SessionId)
    {f : Session → Session} (p : Session → β) (h : ∀ x, p (f x) = p x) :
    p ((w.updateSession s f).session other) = p (w.session other) := by
  rw [session_updateSession]
  split
  · next hs => rw [h, hs.1]
  · rfl

@[simp] theorem target_updateSession (w : World) (s : SessionId) (f : Session → Session)
    (t : TargetId) : (w.updateSession s f).target t = w.target t := rfl

theorem target_updateTarget (w : World) (t other : TargetId) (f : Target → Target) :
    (w.updateTarget t f).target other =
      if other = t ∧ t.index < w.targets.size then f (w.target t) else w.target other := by
  obtain ⟨t⟩ := t
  obtain ⟨other⟩ := other
  simp only [updateTarget, target, w.targets.get_update, TargetId.mk.injEq]

/-- Storing the target that is there changes nothing. -/
theorem updateTarget_self (w : World) (t : TargetId) : (w.updateTarget t fun _ => w.target t) = w := by
  unfold updateTarget target
  rw [Arena.update_get_self]

/-- How a target is changed depends on what becomes of that target only. -/
theorem updateTarget_congr (w : World) {t : TargetId} {f g : Target → Target}
    (h : f (w.target t) = g (w.target t)) : w.updateTarget t f = w.updateTarget t g := by
  unfold updateTarget
  rw [w.targets.update_congr h]

theorem updateTarget_updateTarget (w : World) (t : TargetId) (f g : Target → Target) :
    (w.updateTarget t f).updateTarget t g = w.updateTarget t (g ∘ f) := by
  unfold updateTarget
  dsimp only
  rw [Arena.update_update]

theorem updateTarget_of_size_le (w : World) {t : TargetId} (f : Target → Target)
    (h : w.targets.size ≤ t.index) : w.updateTarget t f = w := by
  unfold updateTarget
  rw [w.targets.update_of_size_le f h]

theorem metadata_updateMetadata (w : World) (t other : TargetId) (f : Metadata → Metadata) :
    ((w.updateMetadata t f).target other).metadata =
      if other = t ∧ t.index < w.targets.size then f (w.target t).metadata
      else (w.target other).metadata := by
  unfold updateMetadata
  rw [target_updateTarget]
  split <;> rfl

@[simp] theorem session_updateTarget (w : World) (t : TargetId) (f : Target → Target)
    (s : SessionId) : (w.updateTarget t f).session s = w.session s := rfl

theorem registry_updateRegistry (w : World) (r other : RegistryId) (f : Registry → Registry) :
    (w.updateRegistry r f).registry other =
      if other = r ∧ r.index < w.registries.size then f (w.registry r) else w.registry other := by
  obtain ⟨r⟩ := r
  obtain ⟨other⟩ := other
  simp only [updateRegistry, registry, w.registries.get_update, RegistryId.mk.injEq]

/-! ## Making targets -/

/-- A new target of a class. -/
def instantiate (c : TargetClass) (origin : Origin) (name : String) (fields : Fields) : Target :=
  { name, type := c.type, origin, appliesDeferred := c.appliesDeferred
    interface := c.interface, fields, metadata := .empty }

/-- Makes the targets that are parts of a new target, and stores them in its fields. -/
def addParts (owner : String) : List (String × String) → Fields → World → Fields × World
  | [], fields, w => (fields, w)
  | (field, type) :: rest, fields, w =>
    match Catalogue.find? type with
    | none => addParts owner rest fields w
    | some c =>
      let part := instantiate c (.catalogue type) (owner ++ "." ++ field) c.initial
      match w.addTarget part with
      | (t, w') => addParts owner rest (fields.insert field (.target t)) w'

/-- Makes a target of the type with the given name; `stored` is what a described type starts with. -/
def create (w : World) (type name : String) (stored : List (String × Value)) :
    Option (TargetId × World) :=
  match w.describedTypes.get? type with
  | some c => some (w.addTarget (instantiate c .described name (c.initial.insertAll stored)))
  | none =>
    (Catalogue.find? type).map fun c =>
      match addParts name c.parts c.initial w with
      | (fields, w') => w'.addTarget (instantiate c (.catalogue type) name fields)

/-! ## Actions -/

/-- Adds a line to the log. -/
def emit (e : Entry) : Action World Unit := .modify (·.write e)

/-- Reports an event. -/
def report (e : Event) : Action World Unit := emit (.event e)

/-- Reports a span around an action. -/
def inSpan {α : Type} (span : Span) (x : Action World α) : Action World α := do
  emit (.opened span)
  x.ensuring fun _ w => w.write (.closed span)

/-- Sends a selector to a target. -/
def send (t : TargetId) (selector : String) (args : List Value) : Action World Value := do
  let receiver := (← .read).target t
  if receiver.origin = .described then emit (.sent t selector args)
  if receiver.runsMethod selector args.length then
    report (.invoking receiver.type.name selector args.length)
  match receiver.send (← .read).named selector args with
  | (reply, after) => do
    .modify (·.updateTarget t fun _ => after)
    match reply with
    | .value v => pure v
    | .fault f => .fail f
    | .unwinding => .stop .unwound

/-- Makes a target of the type with the given name, if there is such a type. -/
def make (type name : String) : Action World (Option TargetId) := fun w =>
  match w.create type name [] with
  | some (t, w') => (.ok (some t), w')
  | none => (.ok none, w)

/-- Calls a root factory. -/
def callRootFactory (f : RootFactoryId) : Action World (Option TargetId) := do
  let factory := (← .read).rootFactories.get f.index
  let call := factory.calls + 1
  .modify fun w =>
    { w with rootFactories := w.rootFactories.update f.index fun x => { x with calls := call } }
  emit (.rootFactoryCalled call)
  match factory.answer call with
  | .declined => pure none
  | .named name => .reads (·.named name)
  | .made type name => make type name

/-- Keeps a session alive while an action runs. -/
def holding {α : Type} (s : SessionId) (x : Action World α) : Action World α := do
  let before := (← .read).running
  .modify fun w => { w with running := s :: w.running }
  x.ensuring fun _ w => { w with running := before }

theorem run_inSpan {α : Type} (span : Span) (x : Action World α) (w : World) :
    (inSpan span x).run w =
      match x.run (w.write (.opened span)) with
      | (r, w') => (r, w'.write (.closed span)) := rfl

theorem run_holding {α : Type} (s : SessionId) (x : Action World α) (w : World) :
    (holding s x).run w =
      match x.run { w with running := s :: w.running } with
      | (r, w') => (r, { w' with running := w.running }) := rfl

/-- Marks a name as in flight on a target; whether it was not so already. -/
def launch (t : TargetId) (name : String) : Action World Bool := do
  match ((← .read).target t).metadata.launch? name with
  | some m => do
    .modify (·.updateMetadata t fun _ => m)
    pure true
  | none => do
    report (.alreadyInFlight name)
    pure false

/-- Takes the mark off a name. -/
def land (w : World) (t : TargetId) (name : String) : World :=
  w.updateMetadata t (·.land name)

end World

end TargetBuilder
