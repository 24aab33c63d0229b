import TargetBuilder.Fault
import TargetBuilder.Naming
import TargetBuilder.Script.Expr

/-!
# Statements

What the blocks of a build are made of. A statement has a verb with its operands; it may name the
session that it works on, and it may swallow the fault that it ends with.

Blocks are written out, are absent, or are the block that the operation of a provider was handed.
Providers are described by the statements of their operations and by the statements that set them up.
-/

namespace TargetBuilder

/-- The arguments of a call as they are written. -/
inductive Args where
  /-- All the arguments that the surrounding operation received. -/
  | received
  | given (items : List Expr)
  deriving Repr

/-- What a root factory is to hand out at a call. -/
inductive RootAnswer where
  | declined
  /-- A new target of a type. -/
  | made (type name : String)
  /-- The target with a name. -/
  | named (name : String)
  deriving DecidableEq, Repr

/-- A root factory that declines its first calls and then always hands out in the same way. -/
structure RootFactorySpec where
  declines : Nat
  /-- The type of the targets that it makes. -/
  type : Option String
  /-- The target that it hands out if it makes none. -/
  target : Option String
  deriving Repr

/-- The answer to the call with the given number, counted from one. -/
def RootFactorySpec.answer (f : RootFactorySpec) (call : Nat) : RootAnswer :=
  if call ≤ f.declines then .declined
  else
    match f.type, f.target with
    | some type, _ => .made type ("made" ++ toString call)
    | none, some name => .named name
    | none, none => .declined

/-- How a session is configured, with everything by name. -/
structure ConfigSpec where
  naming : Naming
  root : Option String
  factory : Option RootFactorySpec
  /-- The targets that tokens stand for. -/
  lookup : Option (List (String × String))
  registry : Option String
  maxPasses : Option Nat

namespace ConfigSpec

/-- Nothing is configured. -/
def empty : ConfigSpec := ⟨.camelCased, none, none, none, none, none⟩

instance : Inhabited ConfigSpec := ⟨empty⟩

end ConfigSpec

/-- What is described. -/
inductive Subject where
  | session
  | config
  | parent
  | lifecycle
  | target (t : Expr)
  | base (t : Expr)
  | context (t : Option Expr)
  | provider (number : Nat)
  deriving Repr

mutual

/-- A block as it is written. -/
inductive Block where
  | absent
  /-- The block that the surrounding operation received. -/
  | received
  | given (body : List Statement)

/-- A statement: what to do, on which session, and whether a fault is swallowed. -/
inductive Statement where
  | mk (verb : Verb) (on : Option String) (attempt : Bool)

/-- What a statement does. -/
inductive Verb where
  | apply (name : String) (args : Args) (block : Block)
  | guarded (name : String) (args : Args) (block : Block)
  | call (name : String) (args : Args)
  | callWith (name : String) (args : Args) (block : Block)
  | enter (place : Expr) (block : Block)
  | context (place : Expr)
  | nest (places : List Expr) (depth : Nat) (block : Block)
  | defer (place : Option Expr) (block : Block)
  | deferOn (place : Expr) (block : Block)
  | reschedule (times : Option Nat)
  | initial (block : Block)
  | reapply (block : Block)
  | always (block : Block)
  | run (block : Block)
  | loop (block : Block) (times : Nat)
  | rescue (block : Block)
  | log (text : String)
  | value (e : Expr)
  | raise (fault : Fault)
  | panic
  | state
  | rootTarget
  | identity
  | describe (subject : Option Subject)
  | send (target : Expr) (name : String) (args : Args)
  | exposes (target : Expr) (name : String) (count : Nat)
  | cast (target : Expr) (name : String)
  | inFlight (target : Expr) (name : String)
  | hold (target : Expr) (name : String) (block : Block)
  | session (name : String) (config : ConfigSpec)
  | withConfig (name : String)
  | child (name : String)
  | drop (name : String)
  | sameSession (name : String)
  | register (type : String) (methods : List (String × List Statement)) (setup : List Statement)
      (registry : Option String)
  | registry (name : String)
  | providerFor (target : Expr)
  | providerInvoke (target : Expr) (name : String) (args : Args) (block : Block)

end

namespace Verb

/-- The word for the verb. -/
def word : Verb → String
  | apply _ _ _ => "apply"
  | guarded _ _ _ => "guarded"
  | call _ _ => "call"
  | callWith _ _ _ => "call_with"
  | enter _ _ => "enter"
  | context _ => "context"
  | nest _ _ _ => "nest"
  | defer _ _ => "defer"
  | deferOn _ _ => "defer_on"
  | reschedule _ => "reschedule"
  | initial _ => "initial"
  | reapply _ => "reapply"
  | always _ => "always"
  | run _ => "run"
  | loop _ _ => "repeat"
  | rescue _ => "catch"
  | log _ => "log"
  | value _ => "value"
  | raise _ => "raise"
  | panic => "panic"
  | state => "state"
  | rootTarget => "root_target"
  | identity => "identity"
  | describe _ => "debug"
  | send _ _ _ => "send"
  | exposes _ _ _ => "exposes"
  | cast _ _ => "cast"
  | inFlight _ _ => "in_flight"
  | hold _ _ _ => "hold"
  | session _ _ => "session"
  | withConfig _ => "with_config"
  | child _ => "child"
  | drop _ => "drop"
  | sameSession _ => "same_session"
  | register _ _ _ _ => "register"
  | registry _ => "registry"
  | providerFor _ => "provider_for"
  | providerInvoke _ _ _ _ => "provider_invoke"

end Verb

namespace Statement

/-- What the statement does. -/
def verb : Statement → Verb
  | mk v _ _ => v

/-- The name of the session that the statement works on, if it names one. -/
def on : Statement → Option String
  | mk _ o _ => o

/-- Whether the statement swallows its fault. -/
def attempt : Statement → Bool
  | mk _ _ a => a

end Statement

end TargetBuilder
