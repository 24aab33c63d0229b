import TargetBuilder.Derive.Literal
import TargetBuilder.Text.Blank
import TargetBuilder.Text.Quoted

/-!
# Lexemes of program text

Types, options and the name of a hook are given as program text. The text is cut into words, lifetimes,
literals and marks. Blanks and comments separate and are dropped, but a documenting comment is short
for an attribute and stands for the lexemes of that. Text that cannot be cut, or in which the brackets
do not match, has no lexemes.
-/

namespace TargetBuilder.Derive

/-- A piece of program text. -/
inductive Lexeme where
  | word (s : String)
  | lifetime (name : String)
  /-- A literal, with the way it is written. -/
  | literal (value : Literal) (written : String)
  /-- A mark: one character, or the two of `::` or `->` directly after each other. -/
  | mark (s : String)
  deriving DecidableEq, Repr, Inhabited

namespace Lexeme

/-- The lexeme as it is written. -/
def text : Lexeme → String
  | word s => s
  | lifetime name => "'" ++ name
  | literal _ written => written
  | mark s => s

/-! ## Blanks and comments -/

/-- Whether a character only separates: a blank, or a mark for the direction of writing. -/
def separates (c : Char) : Bool :=
  Text.isBlank c || c = '\u200e' || c = '\u200f'

/-- What a line holds, and what follows it; a line feed ends it, or a carriage return before one. -/
def line : List Char → List Char × List Char
  | [] => ([], [])
  | '\n' :: rest => ([], '\n' :: rest)
  | '\r' :: '\n' :: rest => ([], '\n' :: rest)
  | c :: rest => let (held, after) := line rest; (c :: held, after)

/--
What a comment between marks holds, given what follows its opening mark, and what follows its closing
one. Comments nest; `depth` inner ones are open.
-/
def enclosed? (depth : Nat) : List Char → Option (List Char × List Char)
  | [] => none
  | '/' :: '*' :: rest =>
    (enclosed? (depth + 1) rest).map fun (held, after) => ('/' :: '*' :: held, after)
  | '*' :: '/' :: rest =>
    match depth with
    | 0 => some ([], rest)
    | outer + 1 => (enclosed? outer rest).map fun (held, after) => ('*' :: '/' :: held, after)
  | c :: rest => (enclosed? depth rest).map fun (held, after) => (c :: held, after)

/-- What is left after the comment at the front, which documents nothing. -/
def afterComment? : List Char → Option (List Char)
  | '/' :: '/' :: '/' :: '/' :: rest => some (line rest).2
  | '/' :: '/' :: '/' :: _ => none
  | '/' :: '/' :: '!' :: _ => none
  | '/' :: '/' :: rest => some (line rest).2
  | '/' :: '*' :: '*' :: '/' :: rest => some rest
  | '/' :: '*' :: '*' :: '*' :: rest => (enclosed? 0 ('*' :: '*' :: rest)).map (·.2)
  | '/' :: '*' :: '*' :: _ => none
  | '/' :: '*' :: '!' :: _ => none
  | '/' :: '*' :: rest => (enclosed? 0 rest).map (·.2)
  | _ => none

/-- Whether every carriage return stands before a line feed. -/
def pairsReturns : List Char → Bool
  | [] => true
  | '\r' :: '\n' :: rest => pairsReturns rest
  | '\r' :: _ => false
  | _ :: rest => pairsReturns rest

/-- What a documenting comment says; `inner` tells that it is about what it stands in. -/
structure Documentation where
  inner : Bool
  content : String
  deriving DecidableEq, Repr

/-- The attribute that a documenting comment is short for. -/
def Documentation.lexemes (d : Documentation) : List Lexeme :=
  mark "#" :: (if d.inner then [mark "!"] else []) ++
    [ mark "[", word "doc", mark "=", literal (.text d.content) (Text.quoted d.content), mark "]" ]

/-- The documenting comment at the front, and what follows it. -/
def documentation? (cs : List Char) : Option (Documentation × List Char) :=
  let said (inner : Bool) (found : List Char × List Char) :
      Option (Documentation × List Char) :=
    if pairsReturns found.1 then some (⟨inner, String.ofList found.1⟩, found.2) else none
  match cs with
  | '/' :: '/' :: '!' :: rest => said true (line rest)
  | '/' :: '/' :: '/' :: rest => said false (line rest)
  | '/' :: '*' :: '!' :: rest => (enclosed? 0 rest).bind (said true)
  | '/' :: '*' :: '*' :: rest => (enclosed? 0 rest).bind (said false)
  | _ => none

/-! ## Words and marks -/

/-- How texts, bytes and characters start whose letters must not be taken for a word. -/
def literalOpenings : List String :=
  ["r\"", "r#\"", "r##", "b\"", "b'", "br\"", "br#", "c\"", "cr\"", "cr#"]

/-- The names that may not be written raw. -/
def neverRaw : List String := ["_", "super", "self", "Self", "crate"]

/-- The name at the front, and what follows it; a raw name keeps the `r#` before it. -/
def name? : List Char → Option (String × List Char)
  | 'r' :: '#' :: rest =>
    (identifier? rest).bind fun (s, after) =>
      if neverRaw.contains s then none else some ("r#" ++ s, after)
  | cs => identifier? cs

/-- The word at the front, and what follows it. -/
def word? (cs : List Char) : Option (String × List Char) :=
  if literalOpenings.any (fun o => o.toList.isPrefixOf cs) then none else name? cs

/--
The lifetime at the front, given what follows its quote, and what follows it. A quote or a number sign
directly after it makes it none, but a raw name may be followed by a number sign.
-/
def lifetime? (cs : List Char) : Option (String × List Char) :=
  (name? cs).filter fun (_, after) =>
    after.head? ≠ some '\'' && (after.head? ≠ some '#' || ['r', '#'].isPrefixOf cs)

/-- The characters that are marks, brackets among them. -/
def marks : List Char := "~!@#$%^&*-=+|;:,<.>/?()[]\x7b\x7d".toList

/-- The mark at the front, and what follows it. -/
def mark? : List Char → Option (String × List Char)
  | ':' :: ':' :: rest => some ("::", rest)
  | '-' :: '>' :: rest => some ("->", rest)
  | '/' :: '/' :: _ => none
  | '/' :: '*' :: _ => none
  | c :: rest => if marks.contains c then some (String.ofList [c], rest) else none
  | [] => none

/-- The lexeme at the front, and what follows it. -/
def first? (cs : List Char) : Option (Lexeme × List Char) :=
  match Literal.scan? cs with
  | some (value, rest) =>
    some (literal value (String.ofList (cs.take (cs.length - rest.length))), rest)
  | none =>
    match cs with
    | '\'' :: rest => (lifetime? rest).map fun (s, after) => (lifetime s, after)
    | _ =>
      match mark? cs with
      | some (s, rest) => some (mark s, rest)
      | none => (word? cs).map fun (s, rest) => (word s, rest)

/-! ## Cutting a text -/

/-- Cuts a text into lexemes, bounded by `fuel` steps, each of which takes a character at least. -/
def cut : (fuel : Nat) → List Char → Option (List Lexeme)
  | _, [] => some []
  | 0, _ => none
  | fuel + 1, c :: rest =>
    if separates c then cut fuel rest
    else
      match afterComment? (c :: rest) with
      | some after => cut fuel after
      | none =>
        match documentation? (c :: rest) with
        | some (d, after) => (cut fuel after).map (d.lexemes ++ ·)
        | none =>
          match first? (c :: rest) with
          | some (l, after) => (cut fuel after).map (l :: ·)
          | none => none

/-- The mark that closes a bracket. -/
def closing? : String → Option String
  | "(" => some ")"
  | "[" => some "]"
  | "\x7b" => some "\x7d"
  | _ => none

/-- Whether every bracket is closed by its own mark, with `stack` still to be closed. -/
def balanced : List String → List Lexeme → Bool
  | stack, [] => stack.isEmpty
  | stack, mark s :: rest =>
    match closing? s with
    | some t => balanced (t :: stack) rest
    | none =>
      if s = ")" ∨ s = "]" ∨ s = "\x7d" then
        match stack with
        | t :: outer => s == t && balanced outer rest
        | [] => false
      else balanced stack rest
  | stack, _ :: rest => balanced stack rest

/-- The lexemes of a text, if it has any reading. A byte order mark may open the text. -/
def scan? (s : String) : Option (List Lexeme) :=
  let cs := match s.toList with
    | '\ufeff' :: rest => rest
    | cs => cs
  (cut cs.length cs).filter (balanced [])

end Lexeme

end TargetBuilder.Derive
