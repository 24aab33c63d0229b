import TargetBuilder.Derive.Lexeme
import TargetBuilder.Value.Conversion

/-!
# Type paths

The type of a configurable field has to be a path whose last segment is `Property` with a type as its
first argument in angle brackets. That argument is the type of the field's content; if it is one that
values convert to, it also names a conversion.

Angle brackets are marks like others. Inside round, square and curly brackets they may compare or
shift, so they count as brackets only outside of those.
-/

namespace TargetBuilder.Derive

open Lexeme

/-! ## Brackets -/

/-- How many brackets are open, and how many angle brackets outside of them. -/
structure Depth where
  brackets : Nat
  angles : Nat
  deriving DecidableEq, Repr

namespace Depth

/-- Nothing is open. -/
def outside : Depth := ⟨0, 0⟩

/-- What is open after a lexeme. -/
def after (d : Depth) (l : Lexeme) : Depth :=
  if l = mark "(" ∨ l = mark "[" ∨ l = mark "\x7b" then { d with brackets := d.brackets + 1 }
  else if l = mark ")" ∨ l = mark "]" ∨ l = mark "\x7d" then { d with brackets := d.brackets - 1 }
  else if d.brackets ≠ 0 then d
  else if l = mark "<" then { d with angles := d.angles + 1 }
  else if l = mark ">" then { d with angles := d.angles - 1 }
  else d

end Depth

/-- What stands before the angle bracket that closes an open one, and what follows it. -/
def closeAngle (d : Depth) : List Lexeme → Option (List Lexeme × List Lexeme)
  | [] => none
  | l :: rest =>
    if d = .outside ∧ l = mark ">" then some ([], rest)
    else (closeAngle (d.after l) rest).map fun (inside, after) => (l :: inside, after)

/-- An argument in angle brackets, and whether a comma follows it. -/
structure Argument where
  lexemes : List Lexeme
  comma : Bool
  deriving DecidableEq, Repr

/-- The arguments in a text, which the commas outside of brackets separate. -/
def arguments (d : Depth) : List Lexeme → List Argument
  | [] => []
  | l :: rest =>
    if d = .outside ∧ l = mark "," then ⟨[], true⟩ :: arguments d rest
    else
      match arguments (d.after l) rest with
      | [] => [⟨[l], false⟩]
      | a :: more => { a with lexemes := l :: a.lexemes } :: more

/-! ## The content of a property -/

/-- The last segment of a path: its name and what stands in its angle brackets, if it has them. -/
structure LastSegment where
  name : String
  args : Option (List Lexeme)
  deriving Repr

/-- The last segment of a path without anything before its first word, bounded by `fuel` segments. -/
def segments? : (fuel : Nat) → List Lexeme → Option LastSegment
  | 0, _ => none
  | fuel + 1, word w :: rest =>
    let generic (inside : List Lexeme) : Option LastSegment :=
      match closeAngle .outside inside with
      | some (args, []) => some ⟨w, some args⟩
      | some (_, mark "::" :: more) => segments? fuel more
      | _ => none
    match rest with
    | [] => some ⟨w, none⟩
    | mark "<" :: inside => generic inside
    | mark "::" :: mark "<" :: inside => generic inside
    | mark "::" :: more => segments? fuel more
    | _ => none
  | _ + 1, _ => none

/-- The last segment of a type, if the type is a path. -/
def lastSegment? (ls : List Lexeme) : Option LastSegment :=
  match ls with
  | mark "::" :: rest => segments? rest.length rest
  | mark "<" :: rest =>
    match closeAngle .outside rest with
    | some (_, mark "::" :: more) => segments? more.length more
    | _ => none
  | _ => segments? ls.length ls

/-- Whether a binding or a bound is given outside of brackets. -/
def hasBinding (d : Depth) : List Lexeme → Bool
  | [] => false
  | l :: rest =>
    (d = .outside && (l = mark "=" || l = mark ":")) || hasBinding (d.after l) rest

/-- Whether an argument in angle brackets is a type, and not a lifetime, a constant or a binding. -/
def isTypeArgument (ls : List Lexeme) : Bool :=
  match ls with
  | [] => false
  | lifetime _ :: mark "+" :: _ => true
  | lifetime _ :: _ => false
  | literal _ _ :: _ => false
  | mark "\x7b" :: _ => false
  | mark "-" :: _ => false
  | word "true" :: _ => false
  | word "false" :: _ => false
  | word _ :: _ => !hasBinding .outside ls
  | _ => true

/-- Whether an argument is a lifetime. -/
def Argument.isLifetime (a : Argument) : Bool :=
  match a.lexemes with
  | [lifetime _] => true
  | _ => false

/-- Arguments one after the other, with a comma after each but the last, which keeps its own. -/
def Argument.listed : List Argument → List Lexeme
  | [] => []
  | [a] => if a.comma then a.lexemes ++ [mark ","] else a.lexemes
  | a :: more => a.lexemes ++ mark "," :: listed more

/--
A type with the lifetimes before the other arguments in its angle brackets, also in those of its
arguments. Square and curly brackets are left as they are; `hidden` of them are open. The number of
lexemes bounds the work.
-/
def arranged : (fuel hidden : Nat) → List Lexeme → List Lexeme
  | 0, _, ls => ls
  | _, _, [] => []
  | fuel + 1, hidden, l :: rest =>
    let plain := l :: arranged fuel hidden rest
    if l = mark "[" ∨ l = mark "\x7b" then l :: arranged fuel (hidden + 1) rest
    else if l = mark "]" ∨ l = mark "\x7d" then l :: arranged fuel (hidden - 1) rest
    else if hidden = 0 ∧ l = mark "<" then
      match closeAngle .outside rest with
      | none => plain
      | some (inside, after) =>
        let args := (arguments .outside inside).map fun a =>
          { a with lexemes := arranged fuel 0 a.lexemes }
        let (lifetimes, others) := args.partition Argument.isLifetime
        l :: Argument.listed (lifetimes ++ others) ++ mark ">" :: arranged fuel 0 after
    else plain

/-- The type of the content of a property type. -/
def contentType? (ls : List Lexeme) : Option (List Lexeme) :=
  match lastSegment? ls with
  | some ⟨"Property", some args⟩ =>
    match arguments .outside args with
    | [] => none
    | first :: _ =>
      if isTypeArgument first.lexemes then some (arranged first.lexemes.length 0 first.lexemes)
      else none
  | _ => none

/-! ## Types that values convert to -/

/-- The conversion to a type without arguments. -/
def plainConversion? : String → Option Conversion
  | "Value" => some .value
  | "bool" => some .bool
  | "i64" => some .int64
  | "i32" => some .int32
  | "f64" => some .float64
  | "f32" => some .float32
  | "String" => some .text
  | "TargetRef" => some .target
  | "KeywordArgs" => some .keywords
  | _ => none

/-- The conversion to a type, if there is one. -/
def conversion? (ls : List Lexeme) : Option Conversion :=
  match ls with
  | [word w] => plainConversion? w
  | word w :: mark "<" :: rest =>
    if rest.getLast? = some (mark ">") then
      match conversion? rest.dropLast with
      | some c =>
        if w = "Vec" then some (.list c) else if w = "Option" then some (.option c) else none
      | none => none
    else none
  | _ => none
termination_by ls.length
decreasing_by simp only [List.length_cons, List.length_dropLast]; omega

end TargetBuilder.Derive
