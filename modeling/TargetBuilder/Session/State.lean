import TargetBuilder.Naming
import TargetBuilder.Script.Statement
import TargetBuilder.Metadata

/-!
# The state of a session

Only the root of a hierarchy has a state that changes: the frame that says what is being configured,
whether a context is open, how far the session has come, the work that was deferred, and a root target
that was made when it was needed. A child session has the same configuration and a state that stays as
it was.
-/

namespace TargetBuilder

/-- The identity of a capability registry. -/
structure RegistryId where
  index : Nat
  deriving DecidableEq, Repr, Inhabited

/-- The identity of a capability provider. -/
structure ProviderId where
  index : Nat
  deriving DecidableEq, Repr, Inhabited

/-- The number of the provider in the order of creation, from one. -/
def ProviderId.number (p : ProviderId) : Nat := p.index + 1

/-- The identity of a root factory. -/
structure RootFactoryId where
  index : Nat
  deriving DecidableEq, Repr, Inhabited

/-- The place where the block of a call waits to be used. -/
structure BlockId where
  index : Nat
  deriving DecidableEq, Repr, Inhabited

/-! ## Work -/

/-- What the statements of a block refer to: the arguments and the block of the surrounding operation. -/
structure Env where
  args : List Value
  block : Option BlockId
  deriving Repr

/-- Outside any operation. -/
def Env.empty : Env := ⟨[], none⟩

/-- A piece of work that can be kept and done later on a session. -/
inductive Task where
  /-- The statements of a block. -/
  | script (body : List Statement) (env : Env)
  /-- Work that defers itself a number of times, or for ever. -/
  | chain (times : Option Nat)

/-- The work of an empty block. -/
def Task.idle : Task := .script [] .empty

/-- Work that waits for the outermost context to close, and the target that it is meant for. -/
structure Deferred where
  target : TargetId
  task : Task

/-! ## Sessions -/

/-- What is being configured. -/
structure Frame where
  target : Option TargetId
  /-- The target that was current when the context was entered. -/
  parent : Option TargetId
  /-- The provider that serves the target. -/
  provider : Option ProviderId
  deriving DecidableEq, Repr

/-- The frame outside any context. -/
def Frame.empty : Frame := ⟨none, none, none⟩

instance : Inhabited Frame := ⟨Frame.empty⟩

/-- Whether a session has completed a build. -/
inductive Lifecycle where
  | initial
  | active
  deriving DecidableEq, Repr, Inhabited

/-- The configuration of a session, shared by the sessions of a hierarchy. -/
structure Config where
  naming : Naming
  rootTarget : Option TargetId
  rootFactory : Option RootFactoryId
  /-- The name of the target that a token stands for. -/
  lookup : Option (String → Option String)
  registry : RegistryId
  /-- How many passes over deferred work are allowed. -/
  maxPasses : Option Nat

instance : Inhabited Config := ⟨⟨.camelCased, none, none, none, default, none⟩⟩

/-- A session. -/
structure Session where
  /-- The root of the hierarchy; none if this is the root itself. -/
  root : Option SessionId
  config : Config
  frame : Frame
  /-- Whether a context is open, and if so whether it is the outermost one. -/
  topLevel : Option Bool
  lifecycle : Lifecycle
  queue : List Deferred
  /-- The root target that was made. -/
  synthesized : Option TargetId

namespace Session

/-- A session in its first state. -/
def fresh (root : Option SessionId) (config : Config) : Session :=
  ⟨root, config, .empty, none, .initial, [], none⟩

instance : Inhabited Session := ⟨fresh none default⟩

/-- Whether the session is the root of its hierarchy. -/
def isRoot (s : Session) : Bool := s.root.isNone

/-- The description of a session. -/
def describe (id : SessionId) (s : Session) : String :=
  Text.openRecord "Session" [("id", id.describe), ("is_root", Text.flag s.isRoot)]

end Session

/-- The description of a lifecycle. -/
def Lifecycle.describe : Lifecycle → String
  | initial => "Initial"
  | active => "Active"

end TargetBuilder
