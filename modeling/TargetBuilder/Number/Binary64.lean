import TargetBuilder.Number.Format

/-!
# Floating-point numbers by their bits

`Binary64` and `Binary32` are the numbers of the two formats, each held as its bit pattern, so that
equality of the structures is equality of the patterns. Equality *as numbers* is `Binary64.same`: no
pattern that is not a number equals any, and the two zeros are equal.
-/

namespace TargetBuilder.Number

/-- A number of the format with 64 bits. -/
structure Binary64 where
  bits : UInt64
  deriving DecidableEq, Repr

/-- A number of the format with 32 bits. -/
structure Binary32 where
  bits : UInt32
  deriving DecidableEq, Repr

namespace Binary64

/-- The sign and the code of `x`. -/
def isNegative (x : Binary64) : Bool := 1 <<< 63 ≤ x.bits.toNat

/-- The bit pattern of `x` without its sign. -/
def code (x : Binary64) : Nat := x.bits.toNat % (1 <<< 63)

/-- The number with the given sign and code. -/
def ofCode (negative : Bool) (code : Nat) : Binary64 :=
  ⟨UInt64.ofNat (if negative then (1 <<< 63) + code else code)⟩

/-- Positive zero. -/
def zero : Binary64 := ⟨0⟩

instance : Inhabited Binary64 := ⟨zero⟩

/-- Whether `x` stands for no number. -/
def isNaN (x : Binary64) : Bool := Format.double.infinity < x.code

/-- Whether `x` is one of the two infinities. -/
def isInfinite (x : Binary64) : Bool := x.code == Format.double.infinity

/-- Equality as numbers. -/
def same (x y : Binary64) : Bool :=
  !x.isNaN && !y.isNaN && (x == y || (x.code == 0 && y.code == 0))

/-- The number nearest to the integer `n`. -/
def ofInt (n : Int) : Binary64 :=
  ofCode (n < 0) (Format.double.encode ⟨n.natAbs, 0⟩)

/-- The number of the smaller format nearest to `x`. -/
def toBinary32 (x : Binary64) : Binary32 :=
  let magnitude :=
    if x.isNaN then 0x7FC00000
    else if x.isInfinite then Format.single.infinity
    else Format.single.encode (Format.double.decode x.code)
  ⟨UInt32.ofNat (if x.isNegative then (1 <<< 31) + magnitude else magnitude)⟩

end Binary64

namespace Binary32

/-- Positive zero. -/
def zero : Binary32 := ⟨0⟩

instance : Inhabited Binary32 := ⟨zero⟩

/-- Whether the sign of `x` is negative. -/
def isNegative (x : Binary32) : Bool := 1 <<< 31 ≤ x.bits.toNat

/-- The bit pattern of `x` without its sign. -/
def code (x : Binary32) : Nat := x.bits.toNat % (1 <<< 31)

/-- The same number in the larger format, where every number of the smaller one has a place. -/
def toBinary64 (x : Binary32) : Binary64 :=
  Binary64.ofCode x.isNegative <|
    if Format.single.infinity < x.code then 0x7FF8000000000000
    else if x.code = Format.single.infinity then Format.double.infinity
    else Format.double.encode (Format.single.decode x.code)

end Binary32

example : (Binary64.ofInt 1).bits = 0x3FF0000000000000 := by decide +kernel
example : (Binary64.ofInt (-9007199254740993)).bits = 0xC340000000000000 := by decide +kernel
example : (⟨0x3FB999999999999A⟩ : Binary64).toBinary32.toBinary64.bits = 0x3FB99999A0000000 := by
  decide +kernel

end TargetBuilder.Number
