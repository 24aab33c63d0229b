import TargetBuilder.Context

/-!
# Resolving calls

A call names an operation without saying where it is found. The provider of the context is asked first,
for the long form of the call and for the name. Otherwise the call is sent to the current target by the
first spelling that the target exposes for the number of arguments. When there is none, a
word-separated name is translated and the call is resolved again from the start.

A call with a block must answer a target, and the block runs in the context of that target. A call
without a block that finds no spelling ends as a setter that the target refuses by itself.

Only what is not exposed moves on to the next spelling: a fault of an operation that was carried out is
the fault of the call.
-/

namespace TargetBuilder

/-- A selector with arguments that a call can be sent as. -/
structure Spelling where
  convention : Convention
  selector : String
  args : List Value
  deriving Repr

namespace Spelling

/-- The long form as a spelling. -/
def ofLongForm (long : LongForm) : Spelling := ⟨.longForm, long.selector, long.args⟩

/-- The spellings of a call without a block, in the order in which they are tried. -/
def plain (naming : Naming) (name : String) (args : List Value) : List Spelling :=
  ((LongForm.fold naming name args).map ofLongForm).toList
    ++ (if args.isEmpty then [⟨.probe, name, []⟩] else [])
    ++ [⟨.setter, naming.setter name, args⟩, ⟨.assignment, naming.assignment name, args⟩]
    ++ (if args.isEmpty then [] else [⟨.combined, name, args⟩])

/-- The spellings of a call with a block, in the order in which they are tried. -/
def switching (naming : Naming) (name : String) (args : List Value) : List Spelling :=
  ((LongForm.fold naming name args).map ofLongForm).toList
    ++ (if args.length = 1 then [⟨.combined, naming.selector name, args⟩] else [])
    ++ [⟨.combined, name, args⟩]

/-- Whether a target exposes the spelling. -/
def isExposedBy (t : Target) (s : Spelling) : Bool := t.respondsTo s.selector s.args.length

/-- The first of the spellings that a target exposes. -/
def choose (t : Target) (spellings : List Spelling) : Option Spelling :=
  spellings.find? (isExposedBy t)

end Spelling

/-- An operation of a provider that a call was resolved to. -/
structure ProviderCall where
  provider : ProviderId
  name : String
  args : List Value
  isLongForm : Bool
  deriving Repr

namespace ProviderCall

/--
The operation of a provider that serves a call: the one named like the long form, or else the one named
like the call.
-/
def choose (p : ProviderId) (provider : Provider) (long : Option LongForm) (name : String)
    (args : List Value) : Option ProviderCall :=
  match long.filter (provider.offers ·.selector) with
  | some long => some ⟨p, long.selector, long.args, true⟩
  | none => if provider.offers name then some ⟨p, name, args, false⟩ else none

/-- What is reported about the call. -/
def event (c : ProviderCall) : Event :=
  if c.isLongForm then .providerLongForm c.name else .providerMethod c.name

end ProviderCall

namespace SessionId

/-- The naming convention of a session. -/
def naming (s : SessionId) : Action World Naming := do
  pure (← s.state).config.naming

/-- The current target for a call, which is undefined where there is no context. -/
def receiver (s : SessionId) (name : String) : Action World TargetId := do
  match (← .read).rootOf? s with
  | none => .fail (.undefinedMethod name)
  | some root =>
    match ← root.enclosing with
    | some t => pure t
    | none => .fail (.undefinedMethod name)

/-- Enters the target that a call with a block answered. -/
def enterAnswer (R : Runner) (s : SessionId) (selector : String) (answer : Value) (block : Task) :
    Action World Value := do
  match answer.target? with
  | none => .fail (.notATarget selector answer.kind)
  | some next => do
    World.report (.switching selector next)
    let entered ← s.enter R (.target next) (R.perform block)
    pure (.target entered)

/-- The translation under which a call is tried again, if there is one. -/
def retranslation (s : SessionId) (name : String) : Action World (Option String) := do
  match (← s.naming).translation? name with
  | none => pure none
  | some translated => do
    World.report (.retrying name translated)
    pure (some translated)

/-- Sends a call with a block to a target; `again` resolves the call under another name. -/
def sendSwitching (R : Runner) (s : SessionId) (again : String → Action World Value) (t : TargetId)
    (name : String) (args : List Value) (block : Task) : Action World Value := do
  let target := (← .read).target t
  match Spelling.choose target (Spelling.switching (← s.naming) name args) with
  | some spelling => do
    let answer ← World.send t spelling.selector spelling.args
    s.enterAnswer R spelling.selector answer block
  | none =>
    match ← s.retranslation name with
    | some translated => again translated
    | none => .fail (.apply name target.type.name)

/-- Sends a call without a block to a target; `again` resolves the call under another name. -/
def sendPlain (s : SessionId) (again : String → Action World Value) (t : TargetId) (name : String)
    (args : List Value) : Action World Value := do
  let target := (← .read).target t
  let naming ← s.naming
  let setter := naming.setter name
  match Spelling.choose target (Spelling.plain naming name args) with
  | some spelling => do
    World.report (.resolved spelling.convention spelling.selector)
    World.send t spelling.selector spelling.args
  | none =>
    -- such a target exposes no setters, and takes them all the same
    if target.appliesDeferred then do
      World.report (.resolved .unexposedSetter setter)
      World.send t setter args
    else
      match ← s.retranslation name with
      | some translated => again translated
      | none => do
        World.report (.unmatched setter t)
        World.send t setter args

/-- Resolves a call against a target, without asking a provider. -/
def resolveDirect (R : Runner) (s : SessionId) (again : String → Action World Value) (t : TargetId)
    (name : String) (args : List Value) : Option Task → Action World Value
  | some block => s.sendSwitching R again t name args block
  | none => s.sendPlain again t name args

/-- The operation of the current provider that serves a call. -/
def providerCall (s : SessionId) (name : String) (args : List Value) :
    Action World (Option ProviderCall) := do
  let w ← .read
  let long := LongForm.fold (← s.naming) name args
  pure <| ((w.rootOf? s).bind fun root => (w.session root).frame.provider).bind fun p =>
    ProviderCall.choose p (w.provider p) long name args

/-- The fault of a call without a name. -/
def refuseNameless (s : SessionId) (name : String) : Action World Value := do
  match ← Action.attempt s.target with
  | .ok t => do
    let type := ((← .read).target t).type.name
    .fail (.apply name type)
  | .error _ => .fail (.apply name "session")

/-- Resolves a call: the provider first, then the target; `again` resolves it under another name. -/
def resolveOnce (R : Runner) (s : SessionId) (again : String → Action World Value) (name : String)
    (args : List Value) (block : Option Task) : Action World Value := do
  if name.isEmpty then s.refuseNameless name
  else do
    let t ← s.receiver name
    match ← s.providerCall name args with
    | some call => do
      World.report call.event
      Capability.invoke R call.provider call.name call.args block
    | none => s.resolveDirect R again t name args block

/-- Resolves a call with a bound on the number of names it is tried under. -/
def applyWithin (R : Runner) (s : SessionId) (args : List Value) (block : Option Task) :
    Nat → String → Action World Value
  | 0, _ => .stop .outOfFuel
  | tries + 1, name => s.resolveOnce R (applyWithin R s args block tries) name args block

/-- Applies a name to the current target. -/
def apply (R : Runner) (s : SessionId) (name : String) (args : List Value) (block : Option Task) :
    Action World Value :=
  s.applyWithin R args block R.fuel name

end SessionId

end TargetBuilder
