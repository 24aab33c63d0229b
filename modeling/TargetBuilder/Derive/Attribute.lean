import TargetBuilder.Derive.Lexeme

/-!
# Attributes of struct descriptions

An attribute is a path alone, a path with one literal, or a path with a list of options. An option is a
flag or has a text. The options of a list are read one after the other, and the first problem ends the
reading, whether it is an option that nobody knows or a mark that is missing.
-/

namespace TargetBuilder.Derive

/-- Why a struct description is refused. -/
inductive Problem where
  | genericStruct
  | unnamedFields
  | notAStruct
  | baseMissing
  | unknownTargetOption
  | unknownStyleOption
  | notAProperty
  /-- An option's value is no text. -/
  | notAText
  /-- A mark is missing. -/
  | expected (mark : Char)
  /-- An attribute that needs options stands alone. -/
  | optionsMissing (path : String)
  /-- An attribute that needs options has a literal. -/
  | optionsNotListed (path : String)
  /-- The list ends where an option should be. -/
  | optionMissing
  /-- A literal stands where an option should be. -/
  | literalForOption
  /-- Something else stands where an option should be. -/
  | strayForOption
  /-- The list ends where a path should go on. -/
  | segmentMissing
  /-- Something that is no name stands where a path should go on. -/
  | notASegment
  /-- The list ends where the value of an option should be. -/
  | valueMissing
  /-- A text that names a function cannot be cut into lexemes. -/
  | unreadableName
  /-- A text that names a function is empty. -/
  | emptyName
  /-- A text that names a function starts with something that is no word. -/
  | notAName
  /-- A text that names a function is a reserved word. -/
  | reservedName (word : String)
  /-- A text that names a function goes on after the name. -/
  | strayAfterName
  deriving DecidableEq, Repr

/-- The message for people. -/
def Problem.message : Problem → String
  | genericStruct => "Target derive does not support generic structs"
  | unnamedFields => "Target derive only supports structs with named fields"
  | notAStruct => "Target derive only supports structs"
  | baseMissing => "Target derive requires a \x60base: TargetBase\x60 field"
  | unknownTargetOption => "unknown target attribute"
  | unknownStyleOption => "unknown style attribute"
  | notAProperty => "#[style] fields must have type Property<T>"
  | notAText => "expected a string literal"
  | expected mark => "expected \x60" ++ String.ofList [mark] ++ "\x60"
  | optionsMissing path =>
    "expected attribute arguments in parentheses: #[" ++ path ++ "(...)]"
  | optionsNotListed path => "expected parentheses: #[" ++ path ++ "(...)]"
  | optionMissing => "unexpected end of input, expected nested attribute"
  | literalForOption => "unexpected literal in nested attribute, expected ident"
  | strayForOption => "unexpected token in nested attribute, expected ident"
  | segmentMissing => "unexpected end of input, expected ident"
  | notASegment => "expected ident"
  | valueMissing => "unexpected end of input, expected an expression"
  | unreadableName => "cannot parse string into token stream"
  | emptyName => "unexpected end of input, expected identifier"
  | notAName => "expected identifier"
  | reservedName word => "expected identifier, found keyword \x60" ++ word ++ "\x60"
  | strayAfterName => "unexpected token"

/-- An option as it is written: its key and its literal, if it has one. -/
structure WrittenOption where
  key : String
  value : Option Literal
  deriving DecidableEq, Repr

/-- What follows the path of an attribute. -/
inductive AttributeForm where
  | bare
  | equals (value : Literal)
  | list (options : List WrittenOption)
  deriving DecidableEq, Repr

/-- An attribute. -/
structure Attribute where
  path : String
  form : AttributeForm
  deriving DecidableEq, Repr

/-- Whether the path of an attribute is a name alone. -/
def Attribute.isNamed (a : Attribute) (name : String) : Bool :=
  Lexeme.scan? a.path == some [.word name]

/-- The lexemes of one option. -/
def WrittenOption.lexemes (o : WrittenOption) : List Lexeme :=
  let key := (Lexeme.scan? o.key).getD []
  match o.value with
  | none => key
  | some v => key ++ [.mark "=", .literal v ""]

/-- The lexemes of a list of options, which commas separate. -/
def optionLexemes (options : List WrittenOption) : List Lexeme :=
  List.intercalate [.mark ","] (options.map WrittenOption.lexemes)

/-- What an option does to the settings `σ` that are being read. -/
inductive Setting (σ : Type) where
  | flag (apply : σ → σ)
  | text (apply : String → σ → Except Problem σ)

variable {σ : Type}

/-- What is left of a list that is being read, and is shorter than the list was. -/
abbrev Shorter (ls : List Lexeme) := { rest : List Lexeme // rest.length < ls.length }

/-- What is left of a list that is being read, and is no longer than the list was. -/
abbrev NoLonger (ls : List Lexeme) := { rest : List Lexeme // rest.length ≤ ls.length }

/-- The lexemes after the segments that follow one segment of a path. -/
def pathRest : (ls : List Lexeme) → Except Problem (NoLonger ls)
  | .mark "::" :: .word _ :: rest =>
    match pathRest rest with
    | .ok ⟨after, h⟩ => .ok ⟨after, by simp only [List.length_cons]; omega⟩
    | .error p => .error p
  | .mark "::" :: [] => .error .segmentMissing
  | .mark "::" :: _ => .error .notASegment
  | ls => .ok ⟨ls, Nat.le_refl _⟩

/-- What can stand for an option, apart from a path. -/
def strayOption : List Lexeme → Problem
  | [] => .optionMissing
  | .literal _ _ :: _ => .literalForOption
  | .mark "-" :: .literal .number _ :: _ => .literalForOption
  | _ => .strayForOption

/-- The path at the front, as its name if it is a name alone, and what follows it. -/
def readPath (ls : List Lexeme) : Except Problem (Option String × Shorter ls) :=
  match ls with
  | .word w :: rest =>
    match pathRest rest with
    | .error p => .error p
    | .ok ⟨after, h⟩ =>
      let alone := after.length = rest.length
      .ok (if alone then some w else none, ⟨after, by simp only [List.length_cons]; omega⟩)
  | .mark "::" :: .word _ :: rest =>
    match pathRest rest with
    | .error p => .error p
    | .ok ⟨after, h⟩ => .ok (none, ⟨after, by simp only [List.length_cons]; omega⟩)
  | .mark "::" :: rest => .error (strayOption rest)
  | ls => .error (strayOption ls)

/-- What must follow an option: nothing, or a comma and perhaps more options. -/
def afterOption : (ls : List Lexeme) → Except Problem (NoLonger ls)
  | [] => .ok ⟨[], Nat.le_refl _⟩
  | .mark "," :: rest => .ok ⟨rest, by simp only [List.length_cons]; omega⟩
  | _ => .error (.expected ',')

/-- The text that a value gives, given what follows the option's name, and what follows the value. -/
def valueText : (ls : List Lexeme) → Except Problem (String × Shorter ls)
  | .mark "=" :: .literal (.text s) _ :: rest =>
    .ok (s, ⟨rest, by simp only [List.length_cons]; omega⟩)
  | [.mark "="] => .error .valueMissing
  | .mark "=" :: _ => .error .notAText
  | _ => .error (.expected '=')

/-- Reads the options of a list into the settings; `known` says what an option of a given name does. -/
def readOptions (known : String → Option (Setting σ)) (unknown : Problem) (settings : σ)
    (ls : List Lexeme) : Except Problem σ :=
  if ls.isEmpty then .ok settings
  else
    match readPath ls with
    | .error p => .error p
    | .ok (name, ⟨afterPath, _⟩) =>
      match name.bind known with
      | none => .error unknown
      | some (.flag apply) =>
        match afterOption afterPath with
        | .error p => .error p
        | .ok ⟨more, _⟩ => readOptions known unknown (apply settings) more
      | some (.text apply) =>
        match valueText afterPath with
        | .error p => .error p
        | .ok (s, ⟨afterValue, _⟩) =>
          match apply s settings with
          | .error p => .error p
          | .ok settings' =>
            match afterOption afterValue with
            | .error p => .error p
            | .ok ⟨more, _⟩ => readOptions known unknown settings' more
termination_by ls.length

end TargetBuilder.Derive
