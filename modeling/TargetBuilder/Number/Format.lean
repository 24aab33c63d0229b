/-!
# Binary floating-point formats

A format is given by three numbers. The non-negative numbers of a format are numbered from zero
upwards by their *code*, which is the bit pattern without the sign: the subnormal numbers first, then
the normal ones, then infinity, and above infinity the codes that are not numbers.

Rounding is to the nearest number of the format, and to the one with the even code of two that are
equally near. Because codes are consecutive over the bounds between exponents, a result that rounds
up to the next power of two needs no case of its own.
-/

namespace TargetBuilder.Number

/-- `mantissa · 2 ^ exponent`. -/
structure Dyadic where
  mantissa : Nat
  exponent : Int
  deriving DecidableEq, Repr

/-- A binary interchange format. -/
structure Format where
  /-- How many binary digits a normal number has. -/
  precision : Nat
  /-- The exponent of the last place of the subnormal numbers. -/
  least : Int
  /-- The code of infinity. -/
  infinity : Nat
  deriving DecidableEq, Repr

namespace Format

/-- The format with 53 binary digits in 64 bits. -/
def double : Format := ⟨53, -1074, 0x7FF0000000000000⟩

/-- The format with 24 binary digits in 32 bits. -/
def single : Format := ⟨24, -149, 0x7F800000⟩

/-- How many codes there are between one power of two and the next. -/
def binade (f : Format) : Nat := 1 <<< (f.precision - 1)

/-- The number that a finite code stands for. -/
def decode (f : Format) (code : Nat) : Dyadic :=
  if code < f.binade then ⟨code, f.least⟩
  else ⟨f.binade + code % f.binade, f.least + (code / f.binade - 1 : Nat)⟩

/-- How many binary digits `n` has; none for zero. -/
def bitLength (n : Nat) : Nat :=
  if n = 0 then 0 else n.log2 + 1

/-- `m / 2 ^ k`, rounded to the nearest natural number and to the even one of two. -/
def roundShift (m k : Nat) : Nat :=
  let unit := 1 <<< k
  let whole := m / unit
  let rest := m % unit
  if 2 * rest < unit ∨ (2 * rest = unit ∧ whole % 2 = 0) then whole else whole + 1

/-- The exponent of the last place that `d` keeps in the format. -/
def lastPlace (f : Format) (d : Dyadic) : Int :=
  max f.least (d.exponent + bitLength d.mantissa - f.precision)

/-- The code of the number of the format nearest to `d`, which is infinity above the largest. -/
def encode (f : Format) (d : Dyadic) : Nat :=
  if d.mantissa = 0 then 0
  else
    let place := f.lastPlace d
    let kept :=
      if place ≤ d.exponent then d.mantissa <<< (d.exponent - place).toNat
      else roundShift d.mantissa (place - d.exponent).toNat
    min f.infinity ((place - f.least).toNat * f.binade + kept)

example : double.encode ⟨1, 0⟩ = 0x3FF0000000000000 := by decide +kernel
example : double.encode ⟨2 ^ 53 + 1, 0⟩ = double.encode ⟨2 ^ 53, 0⟩ := by decide +kernel
example : double.decode 0x3FF0000000000000 = ⟨2 ^ 52, -52⟩ := by decide +kernel
example : single.encode ⟨1, 128⟩ = single.infinity := by decide +kernel

end Format

end TargetBuilder.Number
