import TargetBuilder.Derive.Attribute
import TargetBuilder.Derive.TypePath
import TargetBuilder.Handler
import TargetBuilder.Naming
import TargetBuilder.TargetType

/-!
# Deriving target types

A target type can be derived from the description of a struct. Each field marked as a *style* is
exposed by a probe under its native name, and unless it is read-only by a setter and an assignment. The
native name is the field's name in camel case, or the name the field was given instead.

A struct is refused for the first problem found, looking at its parameters, its own attributes, its
shape, its base field and then its fields in order. Of the style attributes of a field the first one
counts.
-/

namespace TargetBuilder.Derive

/-- What kind of declaration is described. -/
inductive Shape where
  | named
  | tuple
  | unit
  | enumeration
  | union
  deriving DecidableEq, Repr, Inhabited

/-- A field: its name, if it has one, its type as program text, and its attributes. -/
structure Field where
  name : Option String
  type : String
  attributes : List Attribute
  deriving DecidableEq, Repr

/-- The description of a struct. -/
structure Struct where
  name : String
  shape : Shape
  /-- The type parameters and the conditions on them, as program text. -/
  parameters : String
  attributes : List Attribute
  fields : List Field
  deriving DecidableEq, Repr

/-! ## Attributes of the struct -/

/-- What the attributes of a struct say. -/
structure TargetOptions where
  name : Option String
  ancestors : List String
  hook : Option String
  deferred : Bool
  deriving DecidableEq, Repr

/-- The names in a list separated by commas, without blanks around them and without empty ones. -/
def listedNames (list : String) : List String :=
  ((list.toList.splitOn ',').map fun piece => Text.trimmed (String.ofList piece)).filter (· ≠ "")

/-- The words that cannot name a function. -/
def reservedWords : List String :=
  ["_", "abstract", "as", "async", "await", "become", "box", "break", "const", "continue", "crate",
    "do", "dyn", "else", "enum", "extern", "false", "final", "fn", "for", "if", "impl", "in", "let",
    "loop", "macro", "match", "mod", "move", "mut", "override", "priv", "pub", "ref", "return",
    "Self", "self", "static", "struct", "super", "trait", "true", "try", "type", "typeof", "unsafe",
    "unsized", "use", "virtual", "where", "while", "yield"]

/-- The function that a text names. -/
def functionName (s : String) : Except Problem String :=
  match Lexeme.scan? s with
  | none => .error .unreadableName
  | some [] => .error .emptyName
  | some (.word w :: rest) =>
    if reservedWords.contains w then .error (.reservedName w)
    else if rest.isEmpty then .ok w
    else .error .strayAfterName
  | some _ => .error .notAName

/-- The options of a struct. -/
def targetSetting : String → Option (Setting TargetOptions)
  | "name" => some (.text fun s o => .ok { o with name := some s })
  | "extends" => some (.text fun s o => .ok { o with ancestors := listedNames s })
  | "methods" => some (.text fun s o => (functionName s).map fun w => { o with hook := some w })
  | "deferred" => some (.flag fun o => { o with deferred := true })
  | _ => none

/-- Reads one attribute of a struct. -/
def readTargetAttribute (o : TargetOptions) (a : Attribute) : Except Problem TargetOptions :=
  if a.isNamed "target" then
    match a.form with
    | .bare => .error (.optionsMissing "target")
    | .equals _ => .error (.optionsNotListed "target")
    | .list options => readOptions targetSetting .unknownTargetOption o (optionLexemes options)
  else .ok o

/-- Reads the attributes of a struct. -/
def readTargetAttributes : TargetOptions → List Attribute → Except Problem TargetOptions
  | o, [] => .ok o
  | o, a :: rest =>
    match readTargetAttribute o a with
    | .ok o' => readTargetAttributes o' rest
    | .error p => .error p

/-! ## Style fields -/

/-- What the style attribute of a field says. -/
structure StyleOptions where
  rename : Option String
  readOnly : Bool
  deriving DecidableEq, Repr

/-- The options of a style field. -/
def styleSetting : String → Option (Setting StyleOptions)
  | "read_only" => some (.flag fun o => { o with readOnly := true })
  | "rename" => some (.text fun s o => .ok { o with rename := some s })
  | _ => none

/-- The options of a style attribute, which only a list can give. -/
def readStyleAttribute (a : Attribute) : Except Problem StyleOptions :=
  match a.form with
  | .list options =>
    readOptions styleSetting .unknownStyleOption ⟨none, false⟩ (optionLexemes options)
  | _ => .ok ⟨none, false⟩

/-- A configurable field. -/
structure StyleField where
  field : String
  /-- The name that its selectors are spelled from. -/
  native : String
  readOnly : Bool
  /-- The type of its content. -/
  type : List Lexeme
  deriving DecidableEq, Repr

namespace StyleField

/-- The selector that answers the field. -/
def probe (f : StyleField) : String := f.native

/-- The selector that sets the field. -/
def setter? (f : StyleField) : Option String :=
  if f.readOnly then none else some (setterName f.native)

/-- The selector that assigns to the field. -/
def assignment? (f : StyleField) : Option String :=
  if f.readOnly then none else some (f.native ++ "=")

/-- The type of the content as program text without blanks. -/
def typeText (f : StyleField) : String :=
  String.ofList ((f.type.flatMap fun l => l.text.toList).filter fun c => !Text.isBlank c)

/-- The selectors that the field registers. -/
def selectors (f : StyleField) : List String :=
  f.probe :: (f.setter?.toList ++ f.assignment?.toList)

/-- Registers the selectors of the field; nothing, if its content cannot be converted to. -/
def register? (t : MethodTable Handler) (f : StyleField) : Option (MethodTable Handler) :=
  let probed := t.getter f.probe f.field
  if f.readOnly then some probed
  else
    (conversion? f.type).map fun c =>
      (probed.setter (setterName f.native) f.field c).setter (f.native ++ "=") f.field c

end StyleField

/-- The style field that a field describes, if it is marked as one. -/
def styleField? (f : Field) : Except Problem (Option StyleField) :=
  match f.name, f.attributes.find? (·.isNamed "style") with
  | some name, some a =>
    match readStyleAttribute a with
    | .error p => .error p
    | .ok o =>
      match (Lexeme.scan? f.type).bind contentType? with
      | none => .error .notAProperty
      | some type => .ok (some ⟨name, o.rename.getD (camelCase name), o.readOnly, type⟩)
  | _, _ => .ok none

/-- The style fields among the fields of a struct, in order. -/
def styleFields : List Field → Except Problem (List StyleField)
  | [] => .ok []
  | f :: rest =>
    match styleField? f with
    | .error p => .error p
    | .ok found =>
      match styleFields rest with
      | .error p => .error p
      | .ok more => .ok (found.toList ++ more)

/-! ## Derivation -/

/-- What is derived from a struct. -/
structure Derivation where
  type : TargetType
  deferred : Bool
  /-- The function that adds selectors to the table, with the struct it belongs to. -/
  hook : Option String
  fields : List StyleField
  deriving DecidableEq, Repr

/-- Whether there are parameters: something stands between the angle brackets that open the text. -/
def hasParameters (parameters : String) : Bool :=
  match Lexeme.scan? parameters with
  | some (.mark "<" :: .mark ">" :: _) => false
  | some (.mark "<" :: _) => true
  | _ => false

/-- Derives a target type. -/
def derive (s : Struct) : Except Problem Derivation :=
  if hasParameters s.parameters then .error .genericStruct
  else
    match readTargetAttributes ⟨none, [], none, false⟩ s.attributes with
    | .error p => .error p
    | .ok o =>
      match s.shape with
      | .tuple | .unit => .error .unnamedFields
      | .enumeration | .union => .error .notAStruct
      | .named =>
        if s.fields.any (·.name = some "base") then
          match styleFields s.fields with
          | .error p => .error p
          | .ok fields =>
            .ok
              { type := ⟨o.name.getD s.name, o.ancestors⟩
                deferred := o.deferred
                hook := o.hook.map fun f => s.name ++ "::" ++ f
                fields }
        else .error .baseMissing

namespace Derivation

/-- Registers the style fields in order. -/
def registerAll? : MethodTable Handler → List StyleField → Option (MethodTable Handler)
  | t, [] => some t
  | t, f :: rest => (f.register? t).bind fun t' => registerAll? t' rest

/-- The method table of the style fields; none if the content of one cannot be converted to. -/
def table? (d : Derivation) : Option (MethodTable Handler) := registerAll? .empty d.fields

end Derivation

end TargetBuilder.Derive
