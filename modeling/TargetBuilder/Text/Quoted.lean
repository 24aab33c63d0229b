import TargetBuilder.Text.Printable
import TargetBuilder.Text.Unseen

/-!
# Quoted text

How a text is shown inside a description: between double quotes, with escapes for the characters
that could not be told apart otherwise. A single quote stands as it is.
-/

namespace TargetBuilder.Text

/-- The lower-case hexadecimal digits of `n`, without leading zeros. -/
def hexadecimal (n : Nat) : List Char :=
  Nat.toDigits 16 n

/-- `c` by its code point, as in `\u{301}`. -/
def escapeByCode (c : Char) : List Char :=
  ['\\', 'u', '\x7b'] ++ hexadecimal c.toNat ++ ['\x7d']

/--
One character of quoted text.

Six characters have an escape of two characters. A character that is not printable, or that cannot be
seen alone, is written by its code point.
-/
def escape (c : Char) : List Char :=
  if c = '\x00' then ['\\', '0']
  else if c = '\t' then ['\\', 't']
  else if c = '\n' then ['\\', 'n']
  else if c = '\r' then ['\\', 'r']
  else if c = '"' then ['\\', '"']
  else if c = '\\' then ['\\', '\\']
  else if isUnseenAlone c || !isPrintable c then escapeByCode c
  else [c]

/-- `s` between double quotes. -/
def quoted (s : String) : String :=
  String.ofList ('"' :: s.toList.flatMap escape ++ ['"'])

example : escape 'é' = ['é'] := by decide +kernel
example : escape '\x7f' = ['\\', 'u', '\x7b', '7', 'f', '\x7d'] := by decide +kernel
example : escape '\u0301' = ['\\', 'u', '\x7b', '3', '0', '1', '\x7d'] := by decide +kernel

end TargetBuilder.Text
