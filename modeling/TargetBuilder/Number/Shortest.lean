import TargetBuilder.Number.Binary64

/-!
# The shortest decimal that reads back

The text of a floating-point number has the fewest digits that read back as the same number, and of
the decimals with that many digits it is the nearest, or the greater one of two nearest.

The numbers that read back as `x` are those between the midpoints to its two neighbours, the midpoints
included exactly if the code of `x` is even. For one digit, two digits and so on up to seventeen, which
always suffice, the two decimals on both sides of `x` with that many digits are tried.
-/

namespace TargetBuilder.Number

/-- `digits · 10 ^ exponent`. -/
structure Decimal where
  digits : Nat
  exponent : Int
  deriving DecidableEq, Repr

/-- How many decimal digits `n` has; none for zero. -/
def decimalLength (n : Nat) : Nat :=
  if n = 0 then 0 else (Nat.toDigits 10 n).length

/-- The greatest `k` with `10 ^ k ≤ num / den`, for positive `num` and `den`. -/
def floorLog10 (num den : Nat) : Int :=
  if den ≤ num then (decimalLength (num / den) : Int) - 1
  else -(decimalLength ((den - 1) / num) : Int)

/--
The numbers that read back as one number, in quarters of its last place: from `low` to `high` around
`value`, each times `num / den`.
-/
structure Neighbourhood where
  low : Nat
  value : Nat
  high : Nat
  closed : Bool
  num : Nat
  den : Nat

namespace Neighbourhood

/-- The neighbourhood of the positive finite number with the given code. -/
def ofCode (f : Format) (code : Nat) : Neighbourhood :=
  let d := f.decode code
  let m := d.mantissa
  let quarter := d.exponent - 2
  { low := if m = f.binade ∧ f.least < d.exponent then 4 * m - 1 else 4 * m - 2
    value := 4 * m
    high := 4 * m + 2
    closed := m % 2 == 0
    num := 1 <<< quarter.toNat
    den := 1 <<< (-quarter).toNat }

/-- The same neighbourhood, measured in `10 ^ k`. -/
def inUnitsOf (n : Neighbourhood) (k : Int) : Neighbourhood :=
  { n with num := n.num * Nat.pow 10 (-k).toNat, den := n.den * Nat.pow 10 k.toNat }

/-- Whether the natural number `d` lies in the neighbourhood. -/
def holds (n : Neighbourhood) (d : Nat) : Bool :=
  if n.closed then n.low * n.num ≤ d * n.den && d * n.den ≤ n.high * n.num
  else n.low * n.num < d * n.den && d * n.den < n.high * n.num

/--
The natural number next to the middle that lies in the neighbourhood: the nearer one of two, and the
greater one of two that are equally near.
-/
def nearest? (n : Neighbourhood) : Option Nat :=
  let middle := n.value * n.num
  let below := middle / n.den
  let rest := middle % n.den
  match n.holds below, n.holds (below + 1) with
  | true, true => if 2 * rest < n.den then some below else some (below + 1)
  | true, false => some below
  | false, true => some (below + 1)
  | false, false => none

end Neighbourhood

/-- `digits` without its trailing zeros, which move to the exponent. -/
def Decimal.stripped : Nat → Decimal → Decimal
  | 0, d => d
  | fuel + 1, d =>
    if d.digits % 10 = 0 ∧ d.digits ≠ 0 then stripped fuel ⟨d.digits / 10, d.exponent + 1⟩ else d

/-- The shortest decimal that reads back as the positive finite number with the given code. -/
def shortest (f : Format) (code : Nat) : Decimal :=
  let n := Neighbourhood.ofCode f code
  let top := floorLog10 (n.value * n.num) n.den
  let attempt (digits : Nat) : Option Decimal :=
    let k := top - digits
    (n.inUnitsOf k).nearest?.map (⟨·, k⟩)
  let found := ((List.range 17).findSome? attempt).getD ⟨0, 0⟩
  found.stripped (decimalLength found.digits)

/-- How a decimal is written. -/
structure DecimalStyle where
  /-- The least power of ten of the first digit that is still written without an exponent. -/
  positionalFrom : Int
  /-- The least power of ten of the first digit that is written with an exponent again. -/
  positionalTo : Int
  /-- What follows a whole number that is written without an exponent. -/
  wholeSuffix : String
  /-- What stands between the digits and the exponent. -/
  exponentMark : String

/--
Numbers in descriptions: positional from `0.0001` up to but not including `1e16`, and with at least
one decimal; otherwise one digit, the other digits as decimals if there are any, and the exponent.
-/
def descriptionStyle : DecimalStyle := ⟨-4, 16, ".0", "e"⟩

/-- The text of a positive decimal. -/
def DecimalStyle.render (style : DecimalStyle) (d : Decimal) : String :=
  let digits := Nat.toDigits 10 d.digits
  let first := (digits.length : Int) - 1 + d.exponent
  if style.positionalFrom ≤ first ∧ first < style.positionalTo then
    if first < 0 then
      String.ofList ('0' :: '.' :: List.replicate ((-first).toNat - 1) '0' ++ digits)
    else
      let whole := first.toNat + 1
      if digits.length ≤ whole then
        String.ofList (digits ++ List.replicate (whole - digits.length) '0') ++ style.wholeSuffix
      else String.ofList (digits.take whole ++ '.' :: digits.drop whole)
  else
    let fraction := if digits.length ≤ 1 then [] else '.' :: digits.drop 1
    String.ofList (digits.take 1 ++ fraction) ++ style.exponentMark ++ toString first

/-- The text of a number in a description. -/
def Binary64.describe (x : Binary64) : String :=
  if x.isNaN then "NaN"
  else
    let sign := if x.isNegative then "-" else ""
    let magnitude :=
      if x.isInfinite then "inf"
      else if x.code = 0 then "0" ++ descriptionStyle.wholeSuffix
      else descriptionStyle.render (shortest Format.double x.code)
    sign ++ magnitude

example : shortest .double 0x3FB999999999999A = ⟨1, -1⟩ := by decide +kernel
example : shortest .double 1 = ⟨5, -324⟩ := by decide +kernel
example : shortest .double 0x7FEFFFFFFFFFFFFF = ⟨17976931348623157, 292⟩ := by decide +kernel
example : shortest .double 0x4310000000000001 = ⟨11258999068426243, -1⟩ := by decide +kernel

end TargetBuilder.Number
