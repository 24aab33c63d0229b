import TargetBuilder.Value

/-!
# Expressions

A value as it is written in a script: targets stand by their names, and inside an operation of a
provider the arguments of the call stand by their places. A name that no target has and a place beyond
the last argument mean no value.
-/

namespace TargetBuilder

open TargetBuilder.Number

/-- A value as it is written. -/
inductive Expr where
  | nil
  | bool (b : Bool)
  | int (n : Int64)
  | float (x : Binary64)
  | text (s : String)
  | list (items : List Expr)
  | map (entries : List (String × Expr))
  | targetNamed (name : String)
  | argument (place : Nat)
  deriving Repr, Inhabited

namespace Expr

mutual

/-- The value of an expression, given the names of targets and the arguments of the call. -/
def eval (named : String → Option TargetId) (args : List Value) : Expr → Value
  | nil => .nil
  | bool b => .bool b
  | int n => .int n
  | float x => .float x
  | text s => .text s
  | list items => .list (evalList named args items)
  | map entries => .map (OrderedMap.ofList (evalEntries named args entries))
  | targetNamed name =>
    match named name with
    | some t => .target t
    | none => .nil
  | argument place => args.getD place .nil

/-- The values of the elements of a list. -/
def evalList (named : String → Option TargetId) (args : List Value) : List Expr → List Value
  | [] => []
  | e :: rest => eval named args e :: evalList named args rest

/-- The entries of a mapping with their values. -/
def evalEntries (named : String → Option TargetId) (args : List Value) :
    List (String × Expr) → List (String × Value)
  | [] => []
  | (k, e) :: rest => (k, eval named args e) :: evalEntries named args rest

end

end Expr

end TargetBuilder
