/-!
# Arity

How many arguments a selector takes: an exact number, or a least number.
-/

namespace TargetBuilder

/-- How many arguments a selector accepts. -/
inductive Arity where
  /-- This many arguments. -/
  | exactly (n : Nat)
  /-- This many arguments or more. -/
  | atLeast (n : Nat)
  deriving DecidableEq, Repr, Inhabited

namespace Arity

/-- Whether a call with `count` arguments is accepted. -/
def accepts : Arity → Nat → Bool
  | exactly n, count => count == n
  | atLeast n, count => n ≤ count

/-- The arity as it reads in a message. -/
def phrase : Arity → String
  | exactly n => toString n
  | atLeast n => "at least " ++ toString n

/-- The arity as it reads in a description. -/
def describe : Arity → String
  | exactly n => "Exact(" ++ toString n ++ ")"
  | atLeast n => "AtLeast(" ++ toString n ++ ")"

@[simp] theorem accepts_exactly {n count : Nat} : (exactly n).accepts count = true ↔ count = n := by
  simp [accepts]

@[simp] theorem accepts_atLeast {n count : Nat} : (atLeast n).accepts count = true ↔ n ≤ count := by
  simp [accepts]

end Arity

end TargetBuilder
