import TargetBuilder.Text.InversionList

/-!
# Blank characters

The property `White_Space` of Unicode, and cutting blanks off the ends of a text.
-/

namespace TargetBuilder.Text

/-- The characters with the property `White_Space`. -/
def blanks : List Nat :=
  [0x9, 0xE, 0x20, 0x21, 0x85, 0x86, 0xA0, 0xA1, 0x1680, 0x1681, 0x2000, 0x200B, 0x2028, 0x202A,
    0x202F, 0x2030, 0x205F, 0x2060, 0x3000, 0x3001]

/-- Whether `c` is blank. -/
def isBlank (c : Char) : Bool :=
  memberOf blanks c

/-- The characters from the first that is not blank to the last that is not blank. -/
def trimmed (s : String) : String :=
  String.ofList ((s.toList.dropWhile isBlank).reverse.dropWhile isBlank).reverse

end TargetBuilder.Text
