import Mathlib
import Conform.Value.Numeric
/-! Rounding a whole number to a 64-bit float is exact below `2^53` and for a 53-bit significand
shifted left by at most 971 places: the decoded float gives back the number.
-/
namespace Conform.Number

open Float.Model

-----------------------------------------------------------------------------------------
-- Reading the bits of a float
-----------------------------------------------------------------------------------------

/-- A float made from bits that are not a NaN has those bits, so its value is theirs. -/
theorem valueOf_ofBits {w : UInt64} (notNaN : FloatFormat.double.decode w.toNat ≠ .nan)
    : valueOf (Float.ofBits w) = FloatFormat.double.decode w.toNat := by
  have exponent : w.toNat / 2 ^ 52 % 2 ^ 11 = 2047 → w.toNat % 2 ^ 52 = 0 := by
    intro all
    by_contra nonzero
    apply notNaN
    simp only [FloatFormat.decode, FloatFormat.double, FloatFormat.maxField]
    simp_all
  have notNaNBits : @UnpackedFloat.isNaNBits Format.binary64 w.toBitVec = false := by
    simp only [UnpackedFloat.isNaNBits, decide_eq_false_iff_not, not_and, not_not,
      UnpackedFloat.unpackExponent_def, UnpackedFloat.unpackMantissa_def]
    intro all
    rw [← BitVec.toNat_inj] at all ⊢
    simp only [BitVec.extractLsb'_toNat, Nat.shiftRight_eq_div_pow, UInt64.toNat_toBitVec] at all ⊢
    simpa using exponent (by simpa using all)
  have bits : (Float.ofBits w).toBits = w := by
    show UInt64.ofBitVec
      (UnpackedFloat.pack Format.binary64 (UnpackedFloat.unpack Format.binary64 w.toBitVec)) = w
    rw [UnpackedFloat.pack_unpack, notNaNBits]
    rfl
  rw [valueOf, bits]

/-- The bits of a number whose exponent field is neither all zeros nor all ones. -/
theorem decode_normal (negative : Bool) {field fraction : Nat} (low : 0 < field)
    (high : field < 2047) (small : fraction < 2 ^ 52)
    : FloatFormat.double.decode ((if negative then 2 ^ 63 else 0) + field * 2 ^ 52 + fraction)
      = .finite negative (fraction + 2 ^ 52) ((field : Int) - 1075) (fraction == 0 && field > 1) := by
  have sign : (((if negative then 2 ^ 63 else 0) + field * 2 ^ 52 + fraction) / 2 ^ 63 % 2 == 1)
      = negative := by
    cases negative <;> simp <;> omega
  have exponent : ((if negative then 2 ^ 63 else 0) + field * 2 ^ 52 + fraction) / 2 ^ 52 % 2 ^ 11
      = field := by
    cases negative <;> simp <;> omega
  have mantissa : ((if negative then 2 ^ 63 else 0) + field * 2 ^ 52 + fraction) % 2 ^ 52
      = fraction := by
    cases negative <;> simp <;> omega
  simp only [FloatFormat.decode, FloatFormat.double, FloatFormat.maxField, FloatFormat.bias,
    Nat.pow_eq, sign, exponent, mantissa]
  -- the field is neither all ones (infinities and NaN) nor zero (subnormal numbers)
  rw [if_neg (by simp; omega), if_neg (by simp; omega)]
  congr 1
  omega

/-- The significand and exponent of a finite 64-bit number as decoding gives them: at most 53
bits, all 53 unless the exponent is the least one, and an exponent between the least one and
the largest. -/
structure DoubleShape (m : Nat) (q : Int) : Prop where
  small : m < 2 ^ 53
  least : -1074 ≤ q
  most : q ≤ 971
  full : q = -1074 ∨ 2 ^ 52 ≤ m

theorem decode_shape {bits : Nat} {negative : Bool} {m : Nat} {q : Int} {lowerCloser : Bool}
    (finite : FloatFormat.double.decode bits = .finite negative m q lowerCloser)
    : DoubleShape m q := by
  have fraction : bits % 2 ^ 52 < 2 ^ 52 := Nat.mod_lt _ (by positivity)
  have field : bits / 2 ^ 52 % 2 ^ 11 < 2 ^ 11 := Nat.mod_lt _ (by positivity)
  have bias : ((2 ^ (11 - 1) - 1 : Nat) : Int) = 1023 := by norm_num
  simp only [FloatFormat.decode, FloatFormat.double, FloatFormat.maxField, FloatFormat.bias,
    FloatFormat.minExponent, Nat.pow_eq, beq_iff_eq] at finite
  -- the all-ones field holds the infinities and NaN, which are not finite
  split_ifs at finite with top zero
  · -- a subnormal number: the fraction bits alone, at the least exponent
    obtain ⟨-, rfl, rfl, -⟩ := FloatValue.finite.inj finite
    rw [bias]
    exact ⟨by omega, by omega, by omega, Or.inl (by omega)⟩
  · obtain ⟨-, rfl, rfl, -⟩ := FloatValue.finite.inj finite
    rw [bias]
    exact ⟨by omega, by omega, by omega, Or.inr (by omega)⟩

theorem valueOf_shape {x : Float} {negative : Bool} {m : Nat} {q : Int} {lowerCloser : Bool}
    (finite : valueOf x = .finite negative m q lowerCloser) : DoubleShape m q :=
  decode_shape finite

-----------------------------------------------------------------------------------------
-- Rounding a whole number
-----------------------------------------------------------------------------------------

theorem binaryExponent_one {n : Nat} (pos : n ≠ 0) : binaryExponent n 1 = n.log2 := by
  have low : 2 ^ n.log2 ≤ n := Nat.log2_self_le pos
  have one : Nat.log2 1 = 0 := by decide
  simp [binaryExponent, powTwo, Nat.pow_eq, one, low]

theorem roundHalfEven_one (x : Nat) : roundHalfEven x 1 = x := by
  simp [roundHalfEven, Nat.mod_one]

theorem powTwo_nonpos {k : Nat} (le : k ≤ 52) : powTwo ((k : Int) - 52) = (1, 2 ^ (52 - k)) := by
  unfold powTwo
  split
  · have : k = 52 := by omega
    subst this
    rfl
  · simp only [Nat.pow_eq, Prod.mk.injEq, true_and]
    congr 1
    omega

/-- A whole number below `2^53`, shifted left to fill 53 bits, lies in `[2^52, 2^53)`. -/
theorem scaled_bounds {n : Nat} (pos : 0 < n) (small : n < 2 ^ 53)
    : n.log2 ≤ 52 ∧ 2 ^ 52 ≤ n * 2 ^ (52 - n.log2) ∧ n * 2 ^ (52 - n.log2) < 2 ^ 53 := by
  have top : n.log2 ≤ 52 := by
    have := (Nat.log2_lt (by omega)).mpr small
    omega
  refine ⟨top, ?_, ?_⟩
  · calc 2 ^ 52 = 2 ^ n.log2 * 2 ^ (52 - n.log2) := by rw [← pow_add]; congr 1; omega
      _ ≤ n * 2 ^ (52 - n.log2) := Nat.mul_le_mul_right _ (Nat.log2_self_le (by omega))
  · calc n * 2 ^ (52 - n.log2) < 2 ^ (n.log2 + 1) * 2 ^ (52 - n.log2) :=
          Nat.mul_lt_mul_of_pos_right Nat.lt_log2_self (by positivity)
      _ = 2 ^ 53 := by rw [← pow_add]; congr 1; omega

/-- Rounding a whole number below `2^53` is exact: its bits are the sign, the biased exponent of
its leading bit, and the bits after it. -/
theorem roundRational_whole (negative : Bool) {n : Nat} (pos : 0 < n) (small : n < 2 ^ 53)
    : FloatFormat.double.roundRational negative n 1
      = ((if negative then 2 ^ 63 else 0) + (n.log2 + 1023) * 2 ^ 52
          + (n * 2 ^ (52 - n.log2) - 2 ^ 52), false) := by
  obtain ⟨top, low, high⟩ := scaled_bounds pos small
  have exponent : max ((n.log2 : Int) - (52 : Nat)) (FloatFormat.minExponent ⟨52, 11⟩)
      = (n.log2 : Int) - 52 := by
    simp [FloatFormat.minExponent, FloatFormat.bias]
    omega
  simp only [FloatFormat.roundRational, FloatFormat.double, binaryExponent_one (by omega : n ≠ 0),
    exponent, powTwo_nonpos top, roundHalfEven_one, Nat.mul_one, Nat.pow_eq]
  -- no carry past 53 bits, no subnormal result and no overflow
  have nonzero : (n == 0) = false := by simp; omega
  have noCarry : (n * 2 ^ (52 - n.log2) == 2 ^ (52 + 1)) = false := by simp; omega
  simp only [nonzero, noCarry, Bool.false_eq_true, ↓reduceIte]
  rw [if_neg (by omega), if_neg (by simp [FloatFormat.bias, FloatFormat.maxField]; omega)]
  have field : ((n.log2 : Int) - 52 + (FloatFormat.bias ⟨52, 11⟩ : Nat) + (52 : Nat)).toNat
      = n.log2 + 1023 := by
    simp [FloatFormat.bias]
    omega
  rw [field]

theorem toInt?_scaled (negative : Bool) (n k : Nat) (lowerCloser : Bool)
    : FloatValue.toInt? (.finite negative (n * 2 ^ k) (-(k : Int)) lowerCloser)
      = some (if negative then -(n : Int) else n) := by
  cases k with
  | zero => simp [FloatValue.toInt?]
  | succ k =>
    have notWhole : ¬ (0 ≤ -((k + 1 : Nat) : Int)) := by omega
    have shift : (- -((k + 1 : Nat) : Int)).toNat = k + 1 := by omega
    have exact : ((n * 2 ^ (k + 1) : Nat) : Int) / Int.pow 2 (k + 1) = n := by
      change ((n * 2 ^ (k + 1) : Nat) : Int) / (2 : Int) ^ (k + 1) = n
      push_cast
      exact Int.mul_ediv_cancel _ (by positivity)
    simp only [FloatValue.toInt?, if_neg notWhole, shift, Nat.pow_eq, Nat.mul_mod_left, exact]
    rfl

/-- The float nearest to a whole number below `2^53` is that number. -/
theorem floatOfRational_whole (negative : Bool) {n : Nat} (pos : 0 < n) (small : n < 2 ^ 53)
    : (valueOf (floatOfRational negative n 1).1).toInt?
      = some (if negative then -(n : Int) else n) := by
  obtain ⟨top, low, high⟩ := scaled_bounds pos small
  have decoded := decode_normal negative (show 0 < n.log2 + 1023 by omega)
    (show n.log2 + 1023 < 2047 by omega) (show n * 2 ^ (52 - n.log2) - 2 ^ 52 < 2 ^ 52 by omega)
  have fits : ((if negative then 2 ^ 63 else 0) + (n.log2 + 1023) * 2 ^ 52
      + (n * 2 ^ (52 - n.log2) - 2 ^ 52)) < 2 ^ 64 := by
    cases negative <;> simp <;> omega
  have word : ((if negative then 2 ^ 63 else 0) + (n.log2 + 1023) * 2 ^ 52
      + (n * 2 ^ (52 - n.log2) - 2 ^ 52)).toUInt64.toNat = ((if negative then 2 ^ 63 else 0)
      + (n.log2 + 1023) * 2 ^ 52 + (n * 2 ^ (52 - n.log2) - 2 ^ 52)) := by
    rw [Nat.toUInt64, UInt64.toNat_ofNat', Nat.mod_eq_of_lt fits]
  simp only [floatOfRational, roundRational_whole negative pos small]
  rw [valueOf_ofBits (by rw [word, decoded]; simp), word, decoded]
  have mantissa : n * 2 ^ (52 - n.log2) - 2 ^ 52 + 2 ^ 52 = n * 2 ^ (52 - n.log2) := by omega
  have exponent : ((n.log2 + 1023 : Nat) : Int) - 1075 = -((52 - n.log2 : Nat) : Int) := by omega
  rw [mantissa, exponent, toInt?_scaled]


theorem powTwo_natCast (k : Nat) : powTwo (k : Int) = (2 ^ k, 1) := by
  simp [powTwo, Nat.pow_eq]

/-- Rounding a full 53-bit significand shifted left is exact: its bits are the sign, the biased
exponent of the shift and the significand's bits after the leading one. -/
theorem roundRational_shifted (negative : Bool) {m k : Nat} (low : 2 ^ 52 ≤ m) (high : m < 2 ^ 53)
    (small : k ≤ 971)
    : FloatFormat.double.roundRational negative (m * 2 ^ k) 1
      = ((if negative then 2 ^ 63 else 0) + (k + 1075) * 2 ^ 52 + (m - 2 ^ 52), false) := by
  have top : (m * 2 ^ k).log2 = 52 + k := by
    rw [Nat.log2_eq_iff (by positivity)]
    constructor
    · rw [pow_add]
      exact Nat.mul_le_mul_right _ low
    · rw [show 52 + k + 1 = 53 + k by omega, pow_add]
      exact Nat.mul_lt_mul_of_pos_right high (by positivity)
  have exponent : max (((52 + k : Nat) : Int) - (52 : Nat)) (FloatFormat.minExponent ⟨52, 11⟩)
      = (k : Int) := by
    simp [FloatFormat.minExponent, FloatFormat.bias]
  have rounded : roundHalfEven (m * 2 ^ k * 1) (1 * 2 ^ k) = m := by
    have power : 0 < 2 ^ k := by positivity
    simp only [roundHalfEven, Nat.mul_one, Nat.one_mul, Nat.mul_div_cancel _ power,
      Nat.mul_mod_left]
    simp
    omega
  -- no carry past 53 bits, no subnormal result and no overflow
  have nonzero : (m * 2 ^ k == 0) = false := by
    have : 0 < m * 2 ^ k := by positivity
    simp only [beq_eq_false_iff_ne, ne_eq]
    omega
  have noCarry : (m == 2 ^ (52 + 1)) = false := by
    simp only [beq_eq_false_iff_ne, ne_eq]
    omega
  simp only [FloatFormat.roundRational, FloatFormat.double,
    binaryExponent_one (by positivity : m * 2 ^ k ≠ 0), top, exponent, powTwo_natCast, rounded,
    nonzero, noCarry, Nat.pow_eq, Bool.false_eq_true, ↓reduceIte]
  rw [if_neg (by omega), if_neg (by simp [FloatFormat.bias, FloatFormat.maxField]; omega)]
  have field : ((k : Int) + (FloatFormat.bias ⟨52, 11⟩ : Nat) + (52 : Nat)).toNat = k + 1075 := by
    simp [FloatFormat.bias]
    omega
  rw [field]

/-- The float nearest to a full 53-bit significand shifted left by at most 971 places is that
number. -/
theorem floatOfRational_shifted (negative : Bool) {m k : Nat} (low : 2 ^ 52 ≤ m)
    (high : m < 2 ^ 53) (small : k ≤ 971)
    : (valueOf (floatOfRational negative (m * 2 ^ k) 1).1).toInt?
      = some (if negative then -((m * 2 ^ k : Nat) : Int) else (m * 2 ^ k : Nat)) := by
  have decoded := decode_normal negative (show 0 < k + 1075 by omega)
    (show k + 1075 < 2047 by omega) (show m - 2 ^ 52 < 2 ^ 52 by omega)
  have fits : (if negative then 2 ^ 63 else 0) + (k + 1075) * 2 ^ 52 + (m - 2 ^ 52) < 2 ^ 64 := by
    cases negative <;> simp <;> omega
  have word : ((if negative then 2 ^ 63 else 0) + (k + 1075) * 2 ^ 52
      + (m - 2 ^ 52)).toUInt64.toNat
      = (if negative then 2 ^ 63 else 0) + (k + 1075) * 2 ^ 52 + (m - 2 ^ 52) := by
    rw [Nat.toUInt64, UInt64.toNat_ofNat', Nat.mod_eq_of_lt fits]
  simp only [floatOfRational, roundRational_shifted negative low high small]
  rw [valueOf_ofBits (by rw [word, decoded]; simp), word, decoded]
  have mantissa : m - 2 ^ 52 + 2 ^ 52 = m := by omega
  have exponent : ((k + 1075 : Nat) : Int) - 1075 = (k : Int) := by omega
  rw [mantissa, exponent]
  simp [FloatValue.toInt?, Int.pow_eq]

end Conform.Number

namespace Conform

open Number

/-- Every whole number of magnitude at most `2^53` converts to a float exactly. -/
theorem floatOfInt_exact {n : Int} (small : n.natAbs ≤ 2 ^ 53)
    : (valueOf (floatOfInt n)).toInt? = some n := by
  rcases Nat.eq_zero_or_pos n.natAbs with zero | pos
  · -- zero is the subnormal number with no fraction bits
    have bits : (floatOfInt 0).toBits = 0 := by decide
    have decoded : FloatFormat.double.decode 0
        = .finite false 0 FloatFormat.double.minExponent false := by
      simp [FloatFormat.decode, FloatFormat.maxField, FloatFormat.double]
    rw [Int.natAbs_eq_zero.mp zero, valueOf, bits, UInt64.toNat_zero, decoded]
    simp [FloatValue.toInt?]
  rcases Nat.lt_or_ge n.natAbs (2 ^ 53) with below | top
  · rw [floatOfInt, floatOfRational_whole _ pos below]
    congr 1
    split <;> rename_i sign <;> simp at sign <;> omega
  · -- `±2^53` carry into the next binade and are checked by evaluation
    have edge : n = 2 ^ 53 ∨ n = -2 ^ 53 := by omega
    rcases edge with rfl | rfl <;> decide

end Conform
