import Mathlib.Algebra.Group.Nat.Defs
import TargetBuilder.Number.Binary64

/-!
# Rounding to the smaller format happens once

A number of the smaller format has a place in the larger one. Its mantissa is written with more digits
there, and rounding it again takes away just the digits that were added, so the number comes back as it
was. Rounding a number to the smaller format a second time therefore changes nothing.

* `Format.encode_decode_widened`: a finite code of the smaller format survives the way through the larger.
* `Binary64.toBinary32_toBinary64_toBinary32`: what was rounded once is rounded for good.
-/

namespace TargetBuilder.Number

/-- The same number, written with `k` more binary digits. -/
def Dyadic.refine (d : Dyadic) (k : Nat) : Dyadic := ⟨d.mantissa <<< k, d.exponent - k⟩

theorem Dyadic.mantissa_refine_ne_zero {d : Dyadic} (h : d.mantissa ≠ 0) (k : Nat) :
    (d.refine k).mantissa ≠ 0 := by
  unfold refine
  rw [Nat.shiftLeft_eq]
  exact Nat.mul_ne_zero h (Nat.ne_of_gt (Nat.two_pow_pos k))

namespace Format

/-! ## How many digits -/

theorem bitLength_eq {n k : Nat} (low : 2 ^ k ≤ n) (high : n < 2 ^ (k + 1)) :
    bitLength n = k + 1 := by
  have filled : n ≠ 0 := by
    have := Nat.two_pow_pos k
    omega
  unfold bitLength
  rw [if_neg filled, (Nat.log2_eq_iff filled).mpr ⟨low, high⟩]

theorem two_pow_le_of_bitLength {n k : Nat} (h : bitLength n = k + 1) :
    2 ^ k ≤ n ∧ n < 2 ^ (k + 1) := by
  unfold bitLength at h
  split at h
  · cases h
  · next filled => exact (Nat.log2_eq_iff filled).mp (by omega)

theorem exists_bitLength {n : Nat} (h : n ≠ 0) : ∃ k, bitLength n = k + 1 := by
  unfold bitLength
  rw [if_neg h]
  exact ⟨_, rfl⟩

theorem bitLength_le {n k : Nat} (h : n < 2 ^ k) : bitLength n ≤ k := by
  unfold bitLength
  split
  · exact Nat.zero_le k
  · next filled => exact (Nat.log2_lt filled).mpr h

theorem bitLength_shiftLeft {n : Nat} (h : n ≠ 0) (k : Nat) : bitLength (n <<< k) = bitLength n + k := by
  obtain ⟨j, hj⟩ := exists_bitLength h
  obtain ⟨low, high⟩ := two_pow_le_of_bitLength hj
  rw [hj, Nat.shiftLeft_eq, Nat.add_right_comm]
  refine bitLength_eq ?_ ?_
  · rw [Nat.pow_add]
    exact Nat.mul_le_mul_right _ low
  · rw [Nat.add_right_comm, Nat.pow_add]
    exact Nat.mul_lt_mul_of_pos_right high (Nat.two_pow_pos k)

/-! ## Numbers as the format writes them -/

/-- Whether a number is written as the format writes it: with all digits, unless it is subnormal. -/
structure Writes (f : Format) (d : Dyadic) : Prop where
  above : f.least ≤ d.exponent
  short : d.mantissa < 2 * f.binade
  full : d.exponent = f.least ∨ f.binade ≤ d.mantissa

/-- The code of a number that is written as the format writes it. -/
def codeOf (f : Format) (d : Dyadic) : Nat := (d.exponent - f.least).toNat * f.binade + d.mantissa

theorem binade_eq (f : Format) : f.binade = 2 ^ (f.precision - 1) := by
  unfold binade
  rw [Nat.shiftLeft_eq, Nat.one_mul]

theorem binade_pos (f : Format) : 0 < f.binade := by
  rw [binade_eq]
  exact Nat.two_pow_pos _

theorem writes_decode (f : Format) (code : Nat) : f.Writes (f.decode code) := by
  have remainder := Nat.mod_lt code f.binade_pos
  unfold decode
  split
  · next low => exact ⟨Int.le_refl _, by dsimp only; omega, .inl rfl⟩
  · exact ⟨by dsimp only; omega, by dsimp only; omega, .inr (Nat.le_add_right _ _)⟩

theorem codeOf_decode (f : Format) (code : Nat) : f.codeOf (f.decode code) = code := by
  unfold codeOf decode
  split
  · simp
  · next high =>
    have quotient : 1 ≤ code / f.binade := (Nat.one_le_div_iff f.binade_pos).mpr (by omega)
    have whole := Nat.div_add_mod code f.binade
    obtain ⟨q, hq⟩ := Nat.exists_eq_add_of_le quotient
    have place : (f.least + ((code / f.binade - 1 : Nat) : Int) - f.least).toNat = q := by omega
    dsimp only
    rw [place]
    rw [hq, Nat.mul_add, Nat.mul_one, Nat.mul_comm f.binade q] at whole
    omega

theorem decode_codeOf {f : Format} {d : Dyadic} (h : f.Writes d) : f.decode (f.codeOf d) = d := by
  obtain ⟨m, e⟩ := d
  obtain ⟨above, short, full⟩ := h
  dsimp only at above short full
  obtain ⟨q, hq⟩ : ∃ q : Nat, e = f.least + q := ⟨(e - f.least).toNat, by omega⟩
  subst hq
  have place : (f.least + (q : Int) - f.least).toNat = q := by omega
  unfold codeOf decode
  dsimp only
  rw [place]
  by_cases subnormal : m < f.binade
  -- below a full mantissa the exponent is the least one, and the mantissa is the code
  · have least : q = 0 := by omega
    subst least
    rw [Nat.zero_mul, Nat.zero_add, if_pos subnormal]
    simp
  · obtain ⟨r, rfl⟩ := Nat.exists_eq_add_of_le (Nat.le_of_not_lt subnormal)
    have small : r < f.binade := by omega
    have code : q * f.binade + (f.binade + r) = r + f.binade * (q + 1) := by
      rw [Nat.mul_add, Nat.mul_one, Nat.mul_comm]
      omega
    have high : ¬ q * f.binade + (f.binade + r) < f.binade := by omega
    rw [if_neg high, code, Nat.add_mul_mod_self_left, Nat.mod_eq_of_lt small,
      Nat.add_mul_div_left _ _ f.binade_pos, Nat.div_eq_of_lt small]
    simp

/-! ## Encoding what has a place in the format -/

section

variable {f : Format} {d : Dyadic}

/-- Where the last place of a number is does not depend on how many digits it is written with. -/
theorem lastPlace_refine (filled : d.mantissa ≠ 0) (k : Nat) :
    f.lastPlace (d.refine k) = f.lastPlace d := by
  unfold lastPlace Dyadic.refine
  dsimp only
  rw [bitLength_shiftLeft filled]
  congr 1
  omega

/-- The last place of a number that is written as the format writes it is its exponent. -/
theorem lastPlace_of_writes (digits : 0 < f.precision) (h : f.Writes d) :
    f.lastPlace d = d.exponent := by
  obtain ⟨above, short, full⟩ := h
  have width : 2 * f.binade = 2 ^ (f.precision - 1 + 1) := by
    rw [binade_eq, Nat.pow_succ, Nat.mul_comm]
  have bounded : bitLength d.mantissa ≤ f.precision - 1 + 1 := bitLength_le (width ▸ short)
  unfold lastPlace
  rcases full with least | whole
  · omega
  · have exact : bitLength d.mantissa = f.precision - 1 + 1 :=
      bitLength_eq (f.binade_eq ▸ whole) (width ▸ short)
    omega

/-- A number that the format writes with more digits gets the code it has there. -/
theorem encode_of_writes_refine (digits : 0 < f.precision) {k : Nat} (h : f.Writes (d.refine k))
    (filled : d.mantissa ≠ 0) : f.encode d = min f.infinity (f.codeOf (d.refine k)) := by
  have place : f.lastPlace d = d.exponent - k := by
    rw [← lastPlace_refine filled k, lastPlace_of_writes digits h]
    rfl
  have added : (d.exponent - (d.exponent - (k : Int))).toNat = k := by omega
  unfold encode codeOf
  dsimp only
  rw [if_neg filled, place, if_pos (by omega), added]
  rfl

/-- Rounding takes away digits that were added. -/
theorem roundShift_shiftLeft (m k : Nat) : roundShift (m <<< k) k = m := by
  have unit : 0 < 1 <<< k := by
    rw [Nat.shiftLeft_eq, Nat.one_mul]
    exact Nat.two_pow_pos k
  have scaled : m <<< k = m * 1 <<< k := by rw [Nat.shiftLeft_eq, Nat.shiftLeft_eq, Nat.one_mul]
  unfold roundShift
  dsimp only
  rw [scaled, Nat.mul_mod_left, Nat.mul_div_cancel _ unit, if_pos (.inl (by omega))]

/-- A number that is written with more digits than the format has gets the code it has without them. -/
theorem encode_refine_of_writes (digits : 0 < f.precision) (h : f.Writes d) (filled : d.mantissa ≠ 0)
    (k : Nat) : f.encode (d.refine k) = min f.infinity (f.codeOf d) := by
  have refined := Dyadic.mantissa_refine_ne_zero filled k
  have place : f.lastPlace (d.refine k) = d.exponent := by
    rw [lastPlace_refine filled, lastPlace_of_writes digits h]
  have added : (d.exponent - (d.exponent - (k : Int))).toNat = k := by omega
  unfold encode codeOf
  dsimp only
  rw [if_neg refined, place]
  unfold Dyadic.refine
  dsimp only
  split
  · next exact =>
    have none : k = 0 := by omega
    subst none
    simp
  · rw [added, roundShift_shiftLeft]

end

/-! ## From the smaller format to the larger and back -/

/-- A mantissa can be written with any greater number of digits. -/
theorem exists_full_mantissa {m k p : Nat} (hk : bitLength m = k + 1) (room : k ≤ p) :
    2 ^ p ≤ m * 2 ^ (p - k) ∧ m * 2 ^ (p - k) < 2 ^ (p + 1) := by
  obtain ⟨low, high⟩ := two_pow_le_of_bitLength hk
  have lower := Nat.mul_le_mul_right (2 ^ (p - k)) low
  have upper := Nat.mul_lt_mul_of_pos_right high (Nat.two_pow_pos (p - k))
  rw [← Nat.pow_add] at lower upper
  rw [show k + (p - k) = p by omega] at lower
  rw [show k + 1 + (p - k) = p + 1 by omega] at upper
  exact ⟨lower, upper⟩

/-- A number of the smaller format is written in the larger one with all the digits of the larger. -/
theorem exists_writes_double {d : Dyadic} (h : single.Writes d) (finite : single.codeOf d < single.infinity)
    (filled : d.mantissa ≠ 0) :
    ∃ k, double.Writes (d.refine k) ∧ double.codeOf (d.refine k) < double.infinity := by
  obtain ⟨j, hj⟩ := exists_bitLength filled
  have narrow : bitLength d.mantissa ≤ 24 := bitLength_le h.short
  obtain ⟨lower, upper⟩ := exists_full_mantissa hj (show j ≤ 52 by omega)
  have above : -149 ≤ d.exponent := h.above
  have below : d.exponent ≤ 105 := by
    have bounded : (d.exponent + 149).toNat * 2 ^ 23 + d.mantissa < 255 * 2 ^ 23 := finite
    omega
  refine ⟨52 - j, ⟨?_, ?_, .inr ?_⟩, ?_⟩
  · show -1074 ≤ d.exponent - ((52 - j : Nat) : Int)
    omega
  · show d.mantissa <<< (52 - j) < 2 * 2 ^ 52
    rw [Nat.shiftLeft_eq]
    omega
  · show 2 ^ 52 ≤ d.mantissa <<< (52 - j)
    rw [Nat.shiftLeft_eq]
    exact lower
  · show (d.exponent - ((52 - j : Nat) : Int) + 1074).toNat * 2 ^ 52 + d.mantissa <<< (52 - j) <
      2047 * 2 ^ 52
    rw [Nat.shiftLeft_eq]
    omega

/--
**A finite code of the smaller format survives the way through the larger one**, and on the way it is
finite, too.
-/
theorem encode_decode_widened {code : Nat} (finite : code < single.infinity) :
    double.encode (single.decode code) < double.infinity ∧
      single.encode (double.decode (double.encode (single.decode code))) = code := by
  have written := writes_decode single code
  have back : single.codeOf (single.decode code) = code := codeOf_decode single code
  by_cases filled : (single.decode code).mantissa = 0
  -- the code without any digit is that of zero
  · have zero : code = 0 := by
      have full := written.full
      rw [filled] at full
      have least := full.resolve_right (Nat.not_le_of_lt single.binade_pos)
      rw [← back]
      unfold codeOf
      rw [filled, least]
      simp
    subst zero
    decide +kernel
  · obtain ⟨k, wide, bounded⟩ := exists_writes_double written (back.symm ▸ finite) filled
    have widened : double.encode (single.decode code) = double.codeOf ((single.decode code).refine k) := by
      rw [encode_of_writes_refine (by decide) wide filled]
      exact Nat.min_eq_right (Nat.le_of_lt bounded)
    refine ⟨widened ▸ bounded, ?_⟩
    rw [widened, decode_codeOf wide, encode_refine_of_writes (by decide) written filled, back]
    exact Nat.min_eq_right (Nat.le_of_lt finite)

theorem encode_le_infinity (f : Format) (d : Dyadic) : f.encode d ≤ f.infinity := by
  unfold encode
  dsimp only
  split
  · exact Nat.zero_le _
  · exact Nat.min_le_left _ _

end Format

/-! ## Codes of numbers that have a sign -/

/-- The larger format's code for a code of the smaller one. -/
def widen (code : Nat) : Nat :=
  if Format.single.infinity < code then 0x7FF8000000000000
  else if code = Format.single.infinity then Format.double.infinity
  else Format.double.encode (Format.single.decode code)

/-- The smaller format's code for a code of the larger one. -/
def narrow (code : Nat) : Nat :=
  if Format.double.infinity < code then 0x7FC00000
  else if code = Format.double.infinity then Format.single.infinity
  else Format.single.encode (Format.double.decode code)

/-- The codes that rounding gives: those of numbers, and one that stands for no number. -/
def IsRounded (code : Nat) : Prop := code ≤ Format.single.infinity ∨ code = 0x7FC00000

theorem isRounded_narrow (code : Nat) : IsRounded (narrow code) := by
  unfold narrow
  split
  · exact .inr rfl
  · split
    · exact .inl (Nat.le_refl _)
    · exact .inl (Format.encode_le_infinity _ _)

theorem widen_lt (code : Nat) : widen code < 1 <<< 63 := by
  unfold widen
  split
  · decide
  · split
    · decide
    · exact Nat.lt_of_le_of_lt (Format.encode_le_infinity _ _) (by decide)

/-- **A code that rounding gives is the same after widening it and rounding it again.** -/
theorem narrow_widen {code : Nat} (h : IsRounded code) : narrow (widen code) = code := by
  rcases h with number | rfl
  · rcases Nat.lt_or_eq_of_le number with finite | rfl
    · obtain ⟨bounded, back⟩ := Format.encode_decode_widened finite
      unfold widen narrow
      rw [if_neg (Nat.not_lt_of_le number), if_neg (Nat.ne_of_lt finite),
        if_neg (Nat.not_lt_of_lt bounded), if_neg (Nat.ne_of_lt bounded), back]
    · decide
  · decide

/-- The sign and the code of a bit pattern that is put together from them. -/
theorem signed_code (negative : Bool) {unit code : Nat} (h : code < unit) :
    let bits := if negative then unit + code else code
    bits < 2 * unit ∧ bits % unit = code ∧ decide (unit ≤ bits) = negative := by
  cases negative
  · refine ⟨?_, Nat.mod_eq_of_lt h, ?_⟩
    · simp only [Bool.false_eq_true, if_false]
      omega
    · simpa using h
  · refine ⟨?_, ?_, by simp⟩
    · simp only [if_true]
      omega
    · simp only [if_true]
      rw [Nat.add_mod_left, Nat.mod_eq_of_lt h]

namespace Binary32

/-- The number of the smaller format with the given sign and code. -/
def ofCode (negative : Bool) (code : Nat) : Binary32 :=
  ⟨UInt32.ofNat (if negative then (1 <<< 31) + code else code)⟩

theorem ofCode_code (x : Binary32) : ofCode x.isNegative x.code = x := by
  obtain ⟨bits⟩ := x
  have bound := bits.toNat_lt
  have half : 1 <<< 31 = 2 ^ 31 := rfl
  have same : (if 1 <<< 31 ≤ bits.toNat then 1 <<< 31 + bits.toNat % 1 <<< 31
      else bits.toNat % 1 <<< 31) = bits.toNat := by
    rw [half]
    split <;> omega
  unfold ofCode isNegative code
  simp only [decide_eq_true_eq]
  rw [same, UInt32.ofNat_toNat]

theorem code_ofCode (negative : Bool) {code : Nat} (h : code < 1 <<< 31) :
    (ofCode negative code).code = code := by
  obtain ⟨bounded, kept, -⟩ := signed_code negative h
  unfold ofCode Binary32.code
  rw [UInt32.toNat_ofNat_of_lt' bounded, kept]

end Binary32

namespace Binary64

theorem toBinary32_eq (x : Binary64) : x.toBinary32 = .ofCode x.isNegative (narrow x.code) := by
  unfold toBinary32 isNaN isInfinite narrow Binary32.ofCode
  simp only [decide_eq_true_eq, beq_iff_eq]

theorem isRounded_toBinary32 (x : Binary64) : IsRounded x.toBinary32.code := by
  have rounded := isRounded_narrow x.code
  have bounded : narrow x.code < 1 <<< 31 := by
    rcases rounded with number | other
    · exact Nat.lt_of_le_of_lt number (by decide)
    · rw [other]
      decide
  rw [toBinary32_eq, Binary32.code_ofCode _ bounded]
  exact rounded

theorem toBinary32_ofCode (negative : Bool) {code : Nat} (h : code < 1 <<< 63) :
    (ofCode negative code).toBinary32 = .ofCode negative (narrow code) := by
  obtain ⟨bounded, kept, sign⟩ := signed_code negative h
  have bits : (ofCode negative code).bits.toNat = _ := UInt64.toNat_ofNat_of_lt' bounded
  rw [toBinary32_eq]
  unfold isNegative Binary64.code
  rw [bits, kept, sign]

end Binary64

/-- A number of the smaller format that rounding gives is the same after widening and rounding. -/
theorem Binary32.toBinary32_toBinary64 {x : Binary32} (h : IsRounded x.code) :
    x.toBinary64.toBinary32 = x := by
  have widened : x.toBinary64 = .ofCode x.isNegative (widen x.code) := rfl
  rw [widened, Binary64.toBinary32_ofCode _ (widen_lt _), narrow_widen h, ofCode_code]

/-- **What was rounded to the smaller format once is rounded for good.** -/
theorem Binary64.toBinary32_toBinary64_toBinary32 (x : Binary64) :
    x.toBinary32.toBinary64.toBinary32 = x.toBinary32 :=
  Binary32.toBinary32_toBinary64 x.isRounded_toBinary32

end TargetBuilder.Number
