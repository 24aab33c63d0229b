import TargetBuilder.Handler
import TargetBuilder.Metadata
import TargetBuilder.TargetType

/-!
# Targets

A target is what a session configures. It has a type, an interface that decides which selectors it
exposes and what sending them does, its fields, and its metadata.

What is exposed and what can be sent are separate questions: sending goes ahead without looking at what
is exposed, and fails by itself for a selector that means nothing to the target.
-/

namespace TargetBuilder

/-- Which selectors a target answers. -/
inductive Interface where
  /-- The selectors of a method table. -/
  | table (methods : MethodTable Handler)
  /-- A few selectors without arguments, with answers that never change, whatever the arguments. -/
  | constants (answers : OrderedMap String Value)
  /-- Nothing is exposed, and everything that is sent answers no value. -/
  | everything
  deriving Repr

instance : Inhabited Interface := ⟨.everything⟩

/-- Where the type of a target comes from. -/
inductive Origin where
  /-- One of the types of the catalogue, by its name. -/
  | catalogue (name : String)
  /-- A type that was described by the user. -/
  | described
  deriving DecidableEq, Repr, Inhabited

/-- An object that a session can configure. -/
structure Target where
  name : String
  type : TargetType
  origin : Origin
  /-- Whether setters take effect later and never show up through a probe. -/
  appliesDeferred : Bool
  interface : Interface
  fields : Fields
  metadata : Metadata
  deriving Repr, Inhabited

namespace Target

/-- The target as it is shown: its type and its name. -/
def label (t : Target) : String := t.type.name ++ "#" ++ t.name

/-- The arity of a selector, if it is exposed. -/
def arityOf (t : Target) (selector : String) : Option Arity :=
  match t.interface with
  | .table methods => methods.arityOf selector
  | .constants answers => if answers.contains selector then some (.exactly 0) else none
  | .everything => none

/-- Whether a selector is exposed for `count` arguments. -/
def respondsTo (t : Target) (selector : String) (count : Nat) : Bool :=
  match t.arityOf selector with
  | some arity => arity.accepts count
  | none => false

/-- Sends a selector; the answer, and the target after it. -/
def send (named : String → Option TargetId) (t : Target) (selector : String) (args : List Value) :
    Reply × Target :=
  match t.interface with
  | .everything => (.value .nil, t)
  | .constants answers =>
    match answers.get? selector with
    | some v => (.value v, t)
    | none => (.fault (.unsupported selector t.type.name), t)
  | .table methods =>
    match methods.resolve t.type.name selector args.length with
    | .error f => (.fault f, t)
    | .ok handler =>
      match handler.run named selector t.fields args with
      | (reply, fields) => (reply, { t with fields })

/-- Whether sending the selector runs a method of a table. -/
def runsMethod (t : Target) (selector : String) (count : Nat) : Bool :=
  match t.interface with
  | .table methods => methods.respondsTo selector count
  | _ => false

end Target

end TargetBuilder
