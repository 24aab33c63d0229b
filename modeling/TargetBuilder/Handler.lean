import TargetBuilder.MethodTable
import TargetBuilder.Script.Expr
import TargetBuilder.Value.Conversion

/-!
# What methods do

The body of a method reads and writes the named fields of the target it is sent to, and answers a
value, fails, or unwinds. A body never sees anything but the selector it was sent by, the fields and
the arguments, so sending cannot reach a session.

A field that nothing was stored in reads as no value.
-/

namespace TargetBuilder

/-- The named fields of a target. -/
abbrev Fields := OrderedMap String Value

/-- The value of a field. -/
def Fields.read (fields : Fields) (name : String) : Value := (fields.get? name).getD .nil

/-- How a method ends. -/
inductive Reply where
  | value (v : Value)
  | fault (f : Fault)
  /-- The computation is abandoned. -/
  | unwinding
  deriving Repr

/-- The body of a method. -/
inductive Handler where
  /-- Answers a field. -/
  | probe (field : String)
  /-- Stores the argument in a field, converted. -/
  | store (field : String) (conversion : Conversion)
  /-- Stores the first argument, which must fit the conversion, and ignores the others. -/
  | storeFirst (field : String) (conversion : Conversion)
  /-- Stores the list of the arguments. -/
  | storeAll (field : String)
  /-- Appends the argument, which must be a target, and answers it. -/
  | appendTarget (field : String)
  /-- Appends the list of the two arguments, which must be texts, the second before the first. -/
  | appendSwapped (field : String)
  /-- Answers one of the arguments. -/
  | argument (place : Nat)
  /-- Answers the list of the arguments. -/
  | arguments
  /-- Answers a value that does not depend on the call. -/
  | constant (e : Expr)
  /-- Fails. -/
  | fail (f : Fault)
  /-- Unwinds. -/
  | unwind
  deriving Repr, Inhabited

namespace Handler

/-- The fault for an argument that does not fit. -/
def refusal (selector : String) (m : Mismatch) : Fault :=
  .invalidArgument selector m.expected m.got

/-- Stores `v` converted in a field. -/
def storeConverted (selector field : String) (conversion : Conversion) (fields : Fields)
    (v : Value) : Reply × Fields :=
  match conversion.normalize v with
  | .ok w => (.value .nil, fields.insert field w)
  | .error m => (.fault (refusal selector m), fields)

/-- The elements of a field that holds a list. -/
def elements (fields : Fields) (field : String) : List Value :=
  match fields.read field with
  | .list items => items
  | _ => []

/-- Runs the body for a call with `args`, which the arity of the method accepts. -/
def run (named : String → Option TargetId) (selector : String) (fields : Fields)
    (args : List Value) : Handler → Reply × Fields
  | probe field => (.value (fields.read field), fields)
  | store field conversion => storeConverted selector field conversion fields (args.getD 0 .nil)
  | storeFirst field conversion =>
    storeConverted selector field conversion fields (args.getD 0 .nil)
  | storeAll field => (.value .nil, fields.insert field (.list args))
  | appendTarget field =>
    match Conversion.target.normalize (args.getD 0 .nil) with
    | .ok v => (.value v, fields.insert field (.list (elements fields field ++ [v])))
    | .error m => (.fault (refusal selector m), fields)
  | appendSwapped field =>
    match Conversion.text.normalize (args.getD 0 .nil),
        Conversion.text.normalize (args.getD 1 .nil) with
    | .error m, _ => (.fault (refusal selector m), fields)
    | .ok _, .error m => (.fault (refusal selector m), fields)
    | .ok v, .ok w =>
      (.value .nil, fields.insert field (.list (elements fields field ++ [.list [w, v]])))
  | argument place => (.value (args.getD place .nil), fields)
  | arguments => (.value (.list args), fields)
  | constant e => (.value (e.eval named []), fields)
  | fail f => (.fault f, fields)
  | unwind => (.unwinding, fields)

end Handler

namespace MethodTable

/-- Registers a selector without arguments that answers a field. -/
def getter (t : MethodTable Handler) (selector field : String) : MethodTable Handler :=
  t.method selector (.exactly 0) (.probe field)

/-- Registers a selector with one argument that stores it in a field, converted. -/
def setter (t : MethodTable Handler) (selector field : String) (conversion : Conversion) :
    MethodTable Handler :=
  t.method selector (.exactly 1) (.store field conversion)

end MethodTable

end TargetBuilder
