/-!
# Descriptions

How compound things are shown: lists between brackets, sets between braces, and records by their name
and their named parts.
-/

namespace TargetBuilder.Text

/-- The items between square brackets. -/
def list (items : List String) : String :=
  "[" ++ ", ".intercalate items ++ "]"

/-- The items between braces. -/
def set (items : List String) : String :=
  "\x7b" ++ ", ".intercalate items ++ "\x7d"

/-- A record with at least one part. -/
def record (name : String) (parts : List (String × String)) : String :=
  name ++ " \x7b " ++ ", ".intercalate (parts.map fun p => p.1 ++ ": " ++ p.2) ++ " \x7d"

/-- A record of which only some parts are shown. -/
def openRecord (name : String) (parts : List (String × String)) : String :=
  name ++ " \x7b " ++ ", ".intercalate (parts.map fun p => p.1 ++ ": " ++ p.2) ++ ", .. \x7d"

/-- A truth value. -/
def flag (b : Bool) : String := if b then "true" else "false"

/-- Something that may be there. -/
def option : Option String → String
  | none => "None"
  | some s => "Some(" ++ s ++ ")"

end TargetBuilder.Text
