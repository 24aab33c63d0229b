import TargetBuilder.Derive
import TargetBuilder.Target

/-!
# The catalogue of target types

The types of target that are there from the start. All but one are derived from the description of a
struct; some add selectors of their own through a hook. `Spacer` answers its single selector without a
method table.
-/

namespace TargetBuilder

open TargetBuilder.Number

/-- What is needed to make targets of a type. -/
structure TargetClass where
  type : TargetType
  appliesDeferred : Bool
  interface : Interface
  /-- What the fields of a new target hold. -/
  initial : Fields
  /-- Fields that hold a target of their own, with the type of that target. -/
  parts : List (String × String)
  deriving Repr, Inhabited

namespace Catalogue

open Derive

/-! ## Describing structs -/

/-- A style field: its name, its type and the options of its style attribute. -/
def style (name type : String) (options : List WrittenOption) : Field :=
  ⟨some name, "Property<" ++ type ++ ">", [⟨"style", .list options⟩]⟩

/-- A struct with a base field, a target attribute with the given options, and style fields. -/
def struct (name : String) (options : List WrittenOption) (fields : List Field) : Struct :=
  { name
    shape := .named
    parameters := ""
    attributes := [⟨"target", .list options⟩]
    fields := ⟨some "base", "TargetBase", []⟩ :: fields }

/-- An option with a text. -/
def given (key value : String) : WrittenOption := ⟨key, some (.text value)⟩

/-- An option that is a flag. -/
def flag (key : String) : WrittenOption := ⟨key, none⟩

/-- The value that a field holds before anything is stored. -/
def blankValue (type : List Lexeme) : Value :=
  match conversion? type with
  | some c => c.write c.blank
  | none => .nil

/--
The class of a derived type: `hook` adds selectors to its table, and `initial` says which of its fields
do not start blank.
-/
def ofStruct (s : Struct) (hook : MethodTable Handler → MethodTable Handler)
    (initial : List (String × Value)) (parts : List (String × String)) : TargetClass :=
  match derive s with
  | .error _ => default
  | .ok d =>
    { type := d.type
      appliesDeferred := d.deferred
      interface := .table (hook ((d.table?).getD .empty))
      initial := (OrderedMap.ofList (d.fields.map fun f => (f.field, blankValue f.type))).insertAll
        initial
      parts }

/-! ## The types -/

def layer : TargetClass :=
  ofStruct
    (struct "Layer" []
      [ style "corner_radius" "f64" []
      , style "border_width" "f64" []
      , style "masks_to_bounds" "bool" []
      , style "sublayer_count" "i64" [flag "read_only"] ])
    id [("sublayer_count", .int 3)] []

/-- Adding a subview, and probes for the subviews and for the layer, which is a target of its own. -/
def viewMethods (t : MethodTable Handler) : MethodTable Handler :=
  ((t.getter "layer" "layer").getter "subviews" "subviews").method "addSubview:" (.exactly 1)
    (.appendTarget "subviews")

def view : TargetClass :=
  ofStruct
    (struct "View" [given "methods" "view_methods"]
      [ style "alpha" "f64" []
      , style "background_color" "String" []
      , style "hidden" "bool" []
      , style "root" "String" [] ])
    viewMethods
    [("alpha", .float (Binary64.ofInt 1)), ("background_color", .text "clear"),
      ("subviews", .list [])]
    [("layer", "Layer")]

/-- Titles, one for all states and one for each, the number of lines, and the tint. -/
def labelMethods (t : MethodTable Handler) : MethodTable Handler :=
  let titled :=
    ((t.setter "setTitle" "title" .text).getter "title" "title").method "setTitle:forState:"
      (.exactly 2) (.appendSwapped "titles")
  let lined := ((titled.getter "titles" "titles").setter "lines=" "lines" .int64).getter "lines" "lines"
  (lined.method "tint" (.atLeast 1) (.storeFirst "tint" .text)).getter "currentTint" "tint"

def label : TargetClass :=
  ofStruct
    (struct "Label" [given "extends" "View", given "methods" "label_methods"]
      [ style "text" "String" []
      , style "text_color" "String" [] ])
    labelMethods
    [("text_color", .text "black"), ("title", .text ""), ("titles", .list []), ("lines", .int 1),
      ("tint", .text "")]
    []

def button : TargetClass :=
  ofStruct
    (struct "PushButton" [given "name" "Button", given "extends" "Control, View"]
      [ style "title" "String" [given "rename" "titleText"]
      , style "count" "i64" [flag "read_only", given "rename" "snake_name"] ])
    id [("count", .int 7)] []

def buttonAppearance : TargetClass :=
  ofStruct
    (struct "ButtonAppearance" [given "extends" " , Appearance,,View ", flag "deferred"]
      [ style "tint_color" "String" [] ])
    id [("tint_color", .text "none")] []

def gauge : TargetClass :=
  ofStruct
    (struct "Gauge" [given "extends" "Control"]
      [ style "flag" "bool" []
      , style "big_count" "i64" []
      , style "small_count" "i32" []
      , style "wide_level" "f64" []
      , style "narrow_level" "f32" []
      , style "caption" "String" []
      , style "max_level" "Option<f64>" []
      , style "ticks" "Vec<i64>" []
      , style "labels" "Vec<Option<String>>" []
      , style "owner" "Option<TargetRef>" []
      , style "options" "KeywordArgs" []
      , style "anything" "Value" []
      , style "_lead" "i64" []
      , style "double__under" "i64" []
      , style "trail_" "i64" []
      , style "r#type" "i64" [] ])
    id [] []

/-- A type without a method table: `width` answers the same number whatever the arguments. -/
def spacer : TargetClass :=
  { type := ⟨"Spacer", ["View", "Responder"]⟩
    appliesDeferred := false
    interface := .constants (.ofList [("width", .float (Binary64.ofInt 8))])
    initial := .empty
    parts := [] }

/-- The types by their names. -/
def classes : List (String × TargetClass) :=
  [("Layer", layer), ("View", view), ("Label", label), ("Button", button),
    ("ButtonAppearance", buttonAppearance), ("Gauge", gauge), ("Spacer", spacer)]

/-- The type with the given name. -/
def find? (name : String) : Option TargetClass := classes.lookup name

/-- The method table of the type with the given name, if it has one. -/
def table? (name : String) : Option (TargetClass × MethodTable Handler) :=
  match find? name with
  | some c =>
    match c.interface with
    | .table methods => some (c, methods)
    | _ => none
  | none => none

example : buttonAppearance.type.ancestors = ["Appearance", "View"] := by decide +kernel
example : (table? "Button").map (·.2.methods.keys) =
    some ["titleText", "setTitleText", "titleText=", "snake_name"] := by decide +kernel

end Catalogue

end TargetBuilder
