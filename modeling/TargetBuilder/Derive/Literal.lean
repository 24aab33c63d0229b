import TargetBuilder.Text.Identifier

/-!
# Literals in program text

A literal is a text, a character or a number. Each is read from the front of the characters that are
left, and what follows it is answered with it; something that only starts like a literal is none.

A text stands between double quotes and may hold escapes, or between double quotes with as many number
signs around them and then holds none. Besides plain texts there are texts of bytes and texts that end
at a zero character. An identifier directly after a literal belongs to it.
-/

namespace TargetBuilder.Derive

/-- A literal, of which only plain texts have a meaning. -/
inductive Literal where
  | text (s : String)
  | number
  /-- A character, a byte, a text of bytes or a text that ends at a zero character. -/
  | other
  deriving DecidableEq, Repr, Inhabited

/-- The identifier at the front, and what follows it. -/
def identifier? : List Char → Option (String × List Char)
  | [] => none
  | c :: rest =>
    if Text.startsIdentifier c then
      some (String.ofList (c :: rest.takeWhile Text.continuesIdentifier),
        rest.dropWhile Text.continuesIdentifier)
    else none

/-- What is left after the identifier at the front, if there is one. -/
def dropIdentifier (cs : List Char) : List Char :=
  match identifier? cs with
  | some (_, rest) => rest
  | none => cs

namespace Literal

/-! ## Texts and characters -/

/-- What a text consists of. -/
inductive Alphabet where
  /-- Any characters. -/
  | characters
  /-- Bytes; the characters stand for the bytes below 128. -/
  | bytes
  /-- Any characters but the zero character, which ends the text. -/
  | nonzero
  deriving DecidableEq, Repr

namespace Alphabet

/-- Whether a character can stand as it is. -/
def allows : Alphabet → Char → Bool
  | characters, _ => true
  | bytes, c => c.toNat < 128
  | nonzero, c => c ≠ '\x00'

/-- Whether the code of an escape with two hexadecimal digits is in range. -/
def allowsCode : Alphabet → Nat → Bool
  | characters, code => code < 128
  | bytes, _ => true
  | nonzero, code => code ≠ 0

end Alphabet

/-- The value of a hexadecimal digit. -/
def hexadecimal? (c : Char) : Option Nat :=
  if '0' ≤ c ∧ c ≤ '9' then some (c.toNat - '0'.toNat)
  else if 'a' ≤ c ∧ c ≤ 'f' then some (10 + c.toNat - 'a'.toNat)
  else if 'A' ≤ c ∧ c ≤ 'F' then some (10 + c.toNat - 'A'.toNat)
  else none

/--
The character whose code is given by one to six hexadecimal digits before a closing brace, of which
`count` are read and say `code`. Underscores may stand after the first digit.
-/
def codePoint? (code count : Nat) : List Char → Option (Char × List Char)
  | [] => none
  | c :: rest =>
    match hexadecimal? c with
    | some digit => if count = 6 then none else codePoint? (16 * code + digit) (count + 1) rest
    | none =>
      if count = 0 then none
      else if c = '_' then codePoint? code count rest
      else if c = '\x7d' ∧ (code < 0xD800 ∨ 0xDFFF < code ∧ code < 0x110000) then
        some (Char.ofNat code, rest)
      else none

/-- The character that an escape stands for, given what follows its backslash. -/
def escape? (a : Alphabet) : List Char → Option (Char × List Char)
  | 'x' :: c :: d :: rest =>
    match hexadecimal? c, hexadecimal? d with
    | some high, some low =>
      if a.allowsCode (16 * high + low) then some (Char.ofNat (16 * high + low), rest) else none
    | _, _ => none
  | 'u' :: '\x7b' :: rest =>
    if a = .bytes then none else (codePoint? 0 0 rest).filter fun (c, _) => a.allows c
  | 'n' :: rest => some ('\n', rest)
  | 'r' :: rest => some ('\r', rest)
  | 't' :: rest => some ('\t', rest)
  | '\\' :: rest => some ('\\', rest)
  | '\'' :: rest => some ('\'', rest)
  | '"' :: rest => some ('"', rest)
  | '0' :: rest => if a = .nonzero then none else some ('\x00', rest)
  | _ => none

/-- Where a text goes on after a backslash at the end of a line: at the next shown character. -/
def continued? : List Char → Option (List Char)
  | [] => none
  | '\r' :: '\n' :: rest => continued? rest
  | '\r' :: _ => none
  | c :: rest => if c = ' ' ∨ c = '\t' ∨ c = '\n' then continued? rest else some (c :: rest)

/--
The content of a text with escapes up to its closing quote, and what follows; `fuel` bounds the
characters of the content. A carriage return stands only before a line feed.
-/
def quoted? (a : Alphabet) : (fuel : Nat) → List Char → Option (List Char × List Char)
  | 0, _ => none
  | _ + 1, [] => none
  | _ + 1, '"' :: rest => some ([], rest)
  | fuel + 1, '\r' :: rest =>
    match rest with
    | '\n' :: more => (quoted? a fuel more).map fun (s, after) => ('\n' :: s, after)
    | _ => none
  | fuel + 1, '\\' :: rest =>
    if rest.head? = some '\n' ∨ rest.head? = some '\r' then
      (continued? rest).bind (quoted? a fuel)
    else
      (escape? a rest).bind fun (c, more) =>
        (quoted? a fuel more).map fun (s, after) => (c :: s, after)
  | fuel + 1, c :: rest =>
    if a.allows c then (quoted? a fuel rest).map fun (s, after) => (c :: s, after) else none

/-- The content of a text without escapes up to a quote with `signs` number signs, and what follows. -/
def unescaped? (a : Alphabet) (signs : Nat) : List Char → Option (List Char × List Char)
  | [] => none
  | '\r' :: '\n' :: rest =>
    (unescaped? a signs rest).map fun (s, after) => ('\r' :: '\n' :: s, after)
  | '\r' :: _ => none
  | c :: rest =>
    if c = '"' ∧ rest.take signs = List.replicate signs '#' then some ([], rest.drop signs)
    else if a.allows c then
      (unescaped? a signs rest).map fun (s, after) => (c :: s, after)
    else none

/-- A text without escapes, given what follows the letter that announces it. -/
def raw? (a : Alphabet) (cs : List Char) : Option (List Char × List Char) :=
  let signs := (cs.takeWhile (· = '#')).length
  match cs.drop signs with
  | '"' :: rest => if signs ≤ 255 then unescaped? a signs rest else none
  | _ => none

/-- What follows a character between single quotes, given what follows the first of them. -/
def afterCharacter? (a : Alphabet) (cs : List Char) : Option (List Char) :=
  let closed : List Char → Option (List Char)
    | '\'' :: rest => some rest
    | _ => none
  match cs with
  | [] => none
  | '\\' :: rest => (escape? a rest).bind fun (_, after) => closed after
  | c :: rest => if a.allows c then closed rest else none

/-! ## Numbers -/

/-- What follows a number, if it can end there: an identifier goes with it. -/
def endNumber? (cs : List Char) : Option (List Char) :=
  let after := dropIdentifier cs
  if after.head?.any Text.continuesIdentifier then none else some after

/-- What follows the digits of an exponent, which need a digit and may have one sign before it. -/
def afterExponent? (signed valued : Bool) : List Char → Option (List Char)
  | [] => if valued then some [] else none
  | c :: rest =>
    if (c = '+' ∨ c = '-') ∧ !valued then
      if signed then none else afterExponent? true valued rest
    else if c.isDigit then afterExponent? signed true rest
    else if c = '_' then afterExponent? signed valued rest
    else if valued then some (c :: rest) else none

/--
What follows the digits of a number with a point or an exponent. The point may end the number, but
neither another point nor a name may follow it. An exponent without digits is none; then the number
ends before it, if there was a point.
-/
def afterFraction? (dotted : Bool) : List Char → Option (List Char)
  | [] => if dotted then some [] else none
  | c :: rest =>
    if c.isDigit ∨ c = '_' then afterFraction? dotted rest
    else if c = '.' ∧ !dotted then
      if rest.head?.any (fun d => d = '.' || Text.startsIdentifier d) then none
      else afterFraction? true rest
    else if c = 'e' ∨ c = 'E' then
      match afterExponent? false false rest with
      | some after => some after
      | none => if dotted then some (c :: rest) else none
    else if dotted then some (c :: rest) else none

/-- What follows the digits of a whole number to a base; `read` says whether there was a digit. -/
def afterDigits? (base : Nat) (read : Bool) : List Char → Option (List Char)
  | [] => if read then some [] else none
  | c :: rest =>
    match hexadecimal? c with
    | some digit =>
      if digit < base then afterDigits? base true rest
      else if c.isDigit then none
      else if read then some (c :: rest) else none
    | none =>
      if c = '_' ∧ (read ∨ base ≠ 10) then afterDigits? base read rest
      else if c ≠ '_' ∧ read then some (c :: rest) else none

/-- What follows a whole number. -/
def afterWhole? : List Char → Option (List Char)
  | '0' :: 'x' :: rest => afterDigits? 16 false rest
  | '0' :: 'o' :: rest => afterDigits? 8 false rest
  | '0' :: 'b' :: rest => afterDigits? 2 false rest
  | cs => afterDigits? 10 false cs

/-- What follows the number at the front. -/
def afterNumber? (cs : List Char) : Option (List Char) :=
  if cs.head?.any Char.isDigit then
    ((afterFraction? false cs).bind endNumber?).or ((afterWhole? cs).bind endNumber?)
  else none

/-! ## Literals -/

/-- The literal at the front, and what follows it. -/
def scan? (cs : List Char) : Option (Literal × List Char) :=
  let plain (found : Option (List Char × List Char)) : Option (Literal × List Char) :=
    found.map fun (s, rest) => (.text (String.ofList s), dropIdentifier rest)
  let special (found : Option (List Char × List Char)) : Option (Literal × List Char) :=
    found.map fun (_, rest) => (.other, dropIdentifier rest)
  let character (after : Option (List Char)) : Option (Literal × List Char) :=
    after.map fun rest => (.other, dropIdentifier rest)
  match cs with
  | '"' :: rest => plain (quoted? .characters cs.length rest)
  | 'r' :: rest => plain (raw? .characters rest)
  | 'b' :: '"' :: rest => special (quoted? .bytes cs.length rest)
  | 'b' :: 'r' :: rest => special (raw? .bytes rest)
  | 'b' :: '\'' :: rest => character (afterCharacter? .bytes rest)
  | 'c' :: '"' :: rest => special (quoted? .nonzero cs.length rest)
  | 'c' :: 'r' :: rest => special (raw? .nonzero rest)
  | '\'' :: rest => character (afterCharacter? .characters rest)
  | _ => (afterNumber? cs).map fun rest => (.number, rest)

end Literal

end TargetBuilder.Derive
