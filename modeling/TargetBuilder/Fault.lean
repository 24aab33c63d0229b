import TargetBuilder.Arity
import TargetBuilder.Text.Description
import TargetBuilder.Text.Quoted

/-!
# Faults

What can go wrong while targets are configured, each cause with what it is about. A fault has a
message for people, a description that shows its parts, and the name of its kind.
-/

namespace TargetBuilder

/-- Why an operation failed. -/
inductive Fault where
  /-- No target is current and there is no root target. -/
  | noContext
  /-- A call was made while no target was current. -/
  | undefinedMethod (name : String)
  /-- No way of carrying out the call `name` was found. -/
  | apply (name targetType : String)
  /-- Work was deferred with no target to run against. -/
  | invalidDeferred
  /-- A block was needed and none was given. -/
  | blockRequired
  /-- The target does not expose the selector. -/
  | unsupported (selector targetType : String)
  /-- The selector was sent with a number of arguments that it does not accept. -/
  | argumentCount (selector targetType : String) (expected : Arity) (got : Nat)
  /-- An argument was of the wrong kind. -/
  | invalidArgument (selector expected got : String)
  /-- A call with a block answered something that is no target. -/
  | notATarget (selector got : String)
  /-- A token names no target. -/
  | targetNotFound (token : String)
  /-- Deferred work kept deferring more work up to the limit. -/
  | deferredOverflow (passes : Nat)
  /-- An operation of a target or a provider failed for a reason of its own. -/
  | operation (message : String)
  deriving DecidableEq, Repr, Inhabited

namespace Fault

/-- The name of the kind of fault. -/
def kind : Fault → String
  | noContext => "NoContext"
  | undefinedMethod _ => "UndefinedMethod"
  | apply _ _ => "Apply"
  | invalidDeferred => "InvalidDeferred"
  | blockRequired => "BlockRequired"
  | unsupported _ _ => "Unsupported"
  | argumentCount _ _ _ _ => "ArgumentCount"
  | invalidArgument _ _ _ => "InvalidArgument"
  | notATarget _ _ => "NotATarget"
  | targetNotFound _ => "TargetNotFound"
  | deferredOverflow _ => "DeferredOverflow"
  | operation _ => "Operation"

/-- Whether the fault says that a selector is not exposed. -/
def isUnsupported : Fault → Bool
  | unsupported _ _ => true
  | _ => false

/-- `name` between grave accents. -/
def code (name : String) : String := "\x60" ++ name ++ "\x60"

/-- The message for people. -/
def message : Fault → String
  | noContext =>
    "No context available: no target is active and no root target could be created"
  | undefinedMethod name => "undefined method " ++ code name ++ " for session"
  | apply name type => "Cannot apply " ++ Text.quoted name ++ " to instance of " ++ type
  | invalidDeferred =>
    "Invalid deferred block: no context given, none active, and no root target available"
  | blockRequired => "Block required"
  | unsupported selector type => type ++ " does not respond to " ++ code selector
  | argumentCount selector type expected got =>
    code selector ++ " on " ++ type ++ " expects " ++ expected.phrase ++ " argument(s), got "
      ++ toString got
  | invalidArgument selector expected got =>
    "Invalid argument for " ++ code selector ++ ": expected " ++ expected ++ ", got " ++ got
  | notATarget selector got =>
    code selector ++ " returned " ++ got ++ ", expected a target to enter"
  | targetNotFound token => "No target found for token " ++ Text.quoted token
  | deferredOverflow passes =>
    "Deferred queue did not settle after " ++ toString passes ++ " passes"
  | operation message => message

/-- The parts of a fault that has any, by name, as they read in a description. -/
def parts : Fault → List (String × String)
  | undefinedMethod name => [("name", Text.quoted name)]
  | apply name type => [("name", Text.quoted name), ("target_type", Text.quoted type)]
  | unsupported selector type =>
    [("selector", Text.quoted selector), ("target_type", Text.quoted type)]
  | argumentCount selector type expected got =>
    [("selector", Text.quoted selector), ("target_type", Text.quoted type),
      ("expected", expected.describe), ("got", toString got)]
  | invalidArgument selector expected got =>
    [("selector", Text.quoted selector), ("expected", Text.quoted expected),
      ("got", Text.quoted got)]
  | notATarget selector got => [("selector", Text.quoted selector), ("got", Text.quoted got)]
  | targetNotFound token => [("token", Text.quoted token)]
  | deferredOverflow passes => [("passes", toString passes)]
  | _ => []

/-- The description, which shows the kind and the parts. -/
def describe : Fault → String
  | operation message => "Operation(" ++ Text.quoted message ++ ")"
  | fault =>
    match fault.parts with
    | [] => fault.kind
    | parts => Text.record fault.kind parts

example : message (.apply "" "session") = "Cannot apply \"\" to instance of session" := by
  decide +kernel
example :
    describe (.argumentCount "sum" "View" (.atLeast 2) 1) =
      "ArgumentCount \x7b selector: \"sum\", target_type: \"View\", expected: AtLeast(2), got: 1 \x7d" := by
  decide +kernel

end Fault

end TargetBuilder
