/-!
# Inversion lists

A set of code points is given by the ascending list of the places where membership changes: the
first number is the first member, the second the first number after it that is no member, and so on.
A code point is in the set when an odd number of changes lie at or before it.
-/

namespace TargetBuilder.Text

/-- Whether the set holds the code point `n`, when `member` says so for the numbers before it. -/
def inverts (n : Nat) : Bool → List Nat → Bool
  | member, [] => member
  | member, change :: rest => if n < change then member else inverts n (!member) rest

/-- Whether the set given by `changes` holds `c`. -/
def memberOf (changes : List Nat) (c : Char) : Bool :=
  inverts c.toNat false changes

end TargetBuilder.Text
