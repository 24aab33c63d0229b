import TargetBuilder.Value

/-!
# Conversions

A conversion names a type that operations work with: one of eight plain types, the values themselves,
or a list or an option of such a type. Reading takes a value apart into an element of that type, or
says at the first place that does not fit which kind was expected and which was there; writing makes a
value again.

Reading is lenient in three places: an integer is read where a floating-point number is expected, a
floating-point number is rounded where a smaller one is expected, and no value at all is read as an
absent option.
-/

namespace TargetBuilder

open TargetBuilder.Number

/-- A type that values are converted to. -/
inductive Conversion where
  | value
  | bool
  | int64
  | int32
  | float64
  | float32
  | text
  | target
  | keywords
  | list (element : Conversion)
  | option (element : Conversion)
  deriving DecidableEq, Repr

/-- A value of the wrong kind: what was expected and what was there. -/
structure Mismatch where
  expected : String
  got : String
  deriving DecidableEq, Repr

namespace Conversion

/-- The type that the conversion names. -/
def Carrier : Conversion → Type
  | value => Value
  | bool => Bool
  | int64 => Int64
  | int32 => Int32
  | float64 => Binary64
  | float32 => Binary32
  | text => String
  | target => TargetId
  | keywords => Keywords
  | list element => List element.Carrier
  | option element => Option element.Carrier

/-- The refusal of `v` where `expected` should be. -/
def mismatch {α : Type} (expected : String) (v : Value) : Except Mismatch α :=
  .error ⟨expected, v.kind⟩

/-- The 32-bit integer equal to `n`, if there is one. -/
def narrow? (n : Int64) : Option Int32 :=
  if Int32.minValue.toInt ≤ n.toInt ∧ n.toInt ≤ Int32.maxValue.toInt then
    some (Int32.ofInt n.toInt)
  else none

/-- Reads every element, up to the first that does not fit. -/
def readAll {α : Type} (read : Value → Except Mismatch α) : List Value → Except Mismatch (List α)
  | [] => .ok []
  | v :: rest =>
    match read v with
    | .error e => .error e
    | .ok a =>
      match readAll read rest with
      | .error e => .error e
      | .ok more => .ok (a :: more)

/-- Reads a floating-point number, or an integer as one. -/
def readFloat : Value → Except Mismatch Binary64
  | .float x => .ok x
  | .int n => .ok (Binary64.ofInt n.toInt)
  | v => mismatch "float" v

/-- Takes a value apart. -/
def read : (c : Conversion) → Value → Except Mismatch c.Carrier
  | value, v => .ok v
  | bool, .bool b => .ok b
  | bool, v => mismatch "bool" v
  | int64, .int n => .ok n
  | int64, v => mismatch "int" v
  | int32, .int n =>
    match narrow? n with
    | some m => .ok m
    | none => mismatch "i32" (.int n)
  | int32, v => mismatch "int" v
  | float64, v => readFloat v
  | float32, v =>
    match readFloat v with
    | .ok x => .ok x.toBinary32
    | .error e => .error e
  | text, .text s => .ok s
  | text, v => mismatch "string" v
  | target, .target t => .ok t
  | target, v => mismatch "target" v
  | keywords, .map m => .ok m
  | keywords, v => mismatch "map" v
  | list element, .list items => readAll element.read items
  | list _, v => mismatch "list" v
  | option _, .nil => .ok none
  | option element, v =>
    match element.read v with
    | .ok a => .ok (some a)
    | .error e => .error e

/-- Makes a value. -/
def write : (c : Conversion) → c.Carrier → Value
  | value, v => v
  | bool, b => .bool b
  | int64, n => .int n
  | int32, n => .int n.toInt64
  | float64, x => .float x
  | float32, x => .float x.toBinary64
  | text, s => .text s
  | target, t => .target t
  | keywords, m => .map m
  | list element, items => .list (items.map element.write)
  | option _, none => .nil
  | option element, some a => element.write a

/-- Takes a value apart and makes a value of the result. -/
def normalize (c : Conversion) (v : Value) : Except Mismatch Value :=
  match c.read v with
  | .ok a => .ok (c.write a)
  | .error e => .error e

/-- What a field of the type holds before anything is stored. -/
def blank : (c : Conversion) → c.Carrier
  | value => .nil
  | bool => false
  | int64 => (0 : Int64)
  | int32 => (0 : Int32)
  | float64 => Binary64.zero
  | float32 => Binary32.zero
  | text => ""
  | target => (default : TargetId)
  | keywords => .empty
  | list _ => []
  | option _ => none

example : (list (option int32)).read (.list [.nil, .int 3000000000]) = .error ⟨"i32", "int"⟩ := rfl
example : (list (option int32)).read (.list [.nil, .text ""]) = .error ⟨"int", "string"⟩ := rfl
example : (list (option int32)).read (.text "") = .error ⟨"list", "string"⟩ := rfl

end Conversion

end TargetBuilder
