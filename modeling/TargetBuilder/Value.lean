import TargetBuilder.Number.Shortest
import TargetBuilder.OrderedMap
import TargetBuilder.Text.Description
import TargetBuilder.Text.Quoted

/-!
# Values

What is passed to operations and handed back by them. Lists and keyword mappings nest to any depth; a
target is a value by its identity.

Values are compared by `Value.same`: kinds never mix, mappings are equal entry by entry in order, and
floating-point numbers are equal as numbers, so a value that holds something that is no number differs
from itself.
-/

namespace TargetBuilder

open TargetBuilder.Number

/-- The identity of a target. -/
structure TargetId where
  index : Nat
  deriving DecidableEq, Repr, Inhabited

/-- An argument or an answer. -/
inductive Value where
  | nil
  | bool (b : Bool)
  | int (n : Int64)
  | float (x : Binary64)
  | text (s : String)
  | list (items : List Value)
  | map (entries : OrderedMap String Value)
  | target (t : TargetId)
  deriving Repr, Inhabited

/-- Keyword arguments, whose order spells the long form of a call. -/
abbrev Keywords := OrderedMap String Value

namespace Value

/-- The name of the kind of value. -/
def kind : Value → String
  | nil => "nil"
  | bool _ => "bool"
  | int _ => "int"
  | float _ => "float"
  | text _ => "string"
  | list _ => "list"
  | map _ => "map"
  | target _ => "target"

/-- Whether this is no value. -/
def isNil : Value → Bool
  | nil => true
  | _ => false

/-- The keyword mapping, if it has at least one entry. -/
def keywords? : Value → Option Keywords
  | map entries => if entries.isEmpty then none else some entries
  | _ => none

/-- The target, if this is one. -/
def target? : Value → Option TargetId
  | target t => some t
  | _ => none

/-! ## Comparison -/

mutual

/-- Equality of values. -/
def same : Value → Value → Bool
  | nil, nil => true
  | bool a, bool b => a == b
  | int a, int b => a == b
  | float a, float b => a.same b
  | text a, text b => a == b
  | list as, list bs => sameList as bs
  | map ⟨as⟩, map ⟨bs⟩ => sameEntries as bs
  | target a, target b => a == b
  | _, _ => false

/-- Equality of lists, element by element. -/
def sameList : List Value → List Value → Bool
  | [], [] => true
  | a :: as, b :: bs => same a b && sameList as bs
  | _, _ => false

/-- Equality of mappings, entry by entry. -/
def sameEntries : List (String × Value) → List (String × Value) → Bool
  | [], [] => true
  | (k, a) :: as, (l, b) :: bs => k == l && same a b && sameEntries as bs
  | _, _ => false

end

/-! ## Description -/

mutual

/-- The description of a value, with targets shown by `label`. -/
def describe (label : TargetId → String) : Value → String
  | nil => "Nil"
  | bool b => "Bool(" ++ Text.flag b ++ ")"
  | int n => "Int(" ++ toString n.toInt ++ ")"
  | float x => "Float(" ++ x.describe ++ ")"
  | text s => "Str(" ++ Text.quoted s ++ ")"
  | list items => "List(" ++ Text.list (describeList label items) ++ ")"
  | map ⟨entries⟩ =>
    "Map(" ++ Text.record "KeywordArgs" [("entries", Text.list (describeEntries label entries))]
      ++ ")"
  | target t => "Target(" ++ label t ++ ")"

/-- The descriptions of the elements of a list. -/
def describeList (label : TargetId → String) : List Value → List String
  | [] => []
  | v :: rest => describe label v :: describeList label rest

/-- The descriptions of the entries of a mapping. -/
def describeEntries (label : TargetId → String) : List (String × Value) → List String
  | [] => []
  | (k, v) :: rest =>
    ("(" ++ Text.quoted k ++ ", " ++ describe label v ++ ")") :: describeEntries label rest

end

end Value

/-- The description of a keyword mapping. -/
def Keywords.describe (label : TargetId → String) (m : Keywords) : String :=
  Text.record "KeywordArgs" [("entries", Text.list (Value.describeEntries label m.entries))]

example : Value.describe (fun _ => "") (.list [.int 1, .float (Binary64.ofInt 1), .nil]) =
    "List([Int(1), Float(1.0), Nil])" := by decide +kernel
example : Keywords.describe (fun _ => "View#v") (.ofList [("a", .target ⟨0⟩)]) =
    "KeywordArgs \x7b entries: [(\"a\", Target(View#v))] \x7d" := by decide +kernel

end TargetBuilder
