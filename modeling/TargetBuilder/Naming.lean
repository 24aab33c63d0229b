import TargetBuilder.Text.Uppercase
import TargetBuilder.Value

/-!
# Naming conventions

Callers write word-separated names and targets expose selectors. A naming convention translates the
one into the other and spells the selectors that are derived from a name: the setter, the assignment,
the selector with one argument, and the long form that joins a name with keywords.

The default convention is camel case: the words of a name are run together, each but the first with
its first character in upper case.
-/

namespace TargetBuilder

/-! ## Camel case -/

/-- The text with its first character in upper case. -/
def capitalize (s : String) : String :=
  match s.toList with
  | [] => ""
  | c :: rest => String.ofList (Text.upper c ++ rest)

/-- The words of a name, which underscores separate. -/
def words (name : String) : List String :=
  (name.toList.splitOn '_').map String.ofList

/-- The words run together, each but the first capitalized. -/
def camelCase (name : String) : String :=
  match words name with
  | [] => ""
  | first :: rest => first ++ String.join (rest.map capitalize)

/-- The spelling of the setter for `name`. -/
def setterName (name : String) : String :=
  "set" ++ capitalize name

/-! ## Conventions -/

/-- How names become selectors. -/
structure Naming where
  /-- The native spelling of a name. -/
  translate : String → String
  /-- Whether a name is word-separated, and so worth translating. -/
  isWordSeparated : String → Bool
  /-- The setter for a name. -/
  setter : String → String
  /-- The assignment for a name. -/
  assignment : String → String
  /-- The selector with one argument for a name. -/
  selector : String → String
  /-- The selector that joins a name with keywords. -/
  longForm : String → List String → String

namespace Naming

/-- The default convention. -/
def camelCased : Naming where
  translate := camelCase
  isWordSeparated name := name.toList.contains '_'
  setter := setterName
  assignment name := name ++ "="
  selector name := name ++ ":"
  longForm name keys := name ++ String.join (keys.map (":" ++ ·)) ++ ":"

/-- `s` with every character `old` replaced by `new`. -/
def replaceChar (old new : Char) (s : String) : String :=
  String.ofList (s.toList.map fun c => if c = old then new else c)

/-- Words are separated by hyphens. -/
def hyphenated : Naming :=
  { camelCased with
    translate := fun name => camelCase (replaceChar '-' '_' name)
    isWordSeparated := fun name => name.toList.contains '-' }

/-- Names are selectors as they are. -/
def untranslated : Naming :=
  { camelCased with translate := id }

/-- Words are joined by dots, and every derived selector has a spelling of its own. -/
def dotted : Naming :=
  { camelCased with
    translate := replaceChar '_' '.'
    setter := fun name => name ++ "!"
    assignment := fun name => name ++ "<-"
    selector := fun name => name ++ "()"
    longForm := fun name keys => name ++ String.join (keys.map ("/" ++ ·)) }

instance : Inhabited Naming := ⟨camelCased⟩

/-- The translation of a word-separated name, if it is another name. -/
def translation? (naming : Naming) (name : String) : Option String :=
  if naming.isWordSeparated name && naming.translate name != name then some (naming.translate name)
  else none

end Naming

/-! ## Long forms -/

/-- A call whose keywords are part of its selector. -/
structure LongForm where
  selector : String
  args : List Value
  deriving Repr

/--
Folds a call with exactly two arguments of which the second is a keyword mapping with entries: the
keys go into the selector, the values follow the first argument.
-/
def LongForm.fold (naming : Naming) (name : String) : List Value → Option LongForm
  | [first, second] =>
    second.keywords?.map fun keywords =>
      ⟨naming.longForm name keywords.keys, first :: keywords.values⟩
  | _ => none

example : camelCase "corner_radius" = "cornerRadius" := by decide +kernel
example : camelCase "_lead__trail_" = "LeadTrail" := by decide +kernel
example : Naming.camelCased.longForm "foo" ["a", "b"] = "foo:a:b:" := by decide +kernel
example : Naming.dotted.longForm "foo" ["a", "b"] = "foo/a/b" := by decide +kernel

end TargetBuilder
