import Mathlib
import Conform.Proofs.FloatOrder
/-! A whole-number width holds exactly the whole floats whose integer is in its range, and
converts each of them to its own value, for every conversion exact within the range.
-/

namespace Conform

open Number

-----------------------------------------------------------------------------------------
-- Truncation
-----------------------------------------------------------------------------------------

namespace Number

theorem toInt?_zero_significand (negative : Bool) (q : Int) (lowerCloser : Bool)
    : (FloatValue.finite negative 0 q lowerCloser).toInt? = some 0 := by
  simp only [FloatValue.toInt?]
  split_ifs <;> simp_all

/-- The float nearest to zero, of either sign, is a zero. -/
theorem floatOfRational_zero (negative : Bool)
    : (valueOf (floatOfRational negative 0 1).1).toInt? = some 0 := by
  have signBit : FloatFormat.double.roundRational negative 0 1
      = (if negative then 2 ^ 63 else 0, false) := by
    simp [FloatFormat.roundRational, FloatFormat.double, Nat.pow_eq]
  have fits : (if negative then 2 ^ 63 else 0 : Nat).toUInt64.toNat
      = if negative then 2 ^ 63 else 0 := by
    cases negative <;> rfl
  have decoded : FloatFormat.double.decode (if negative then 2 ^ 63 else 0)
      = .finite negative 0 FloatFormat.double.minExponent false := by
    cases negative <;> simp [FloatFormat.decode, FloatFormat.double, FloatFormat.maxField]
  simp only [floatOfRational, signBit]
  rw [valueOf_ofBits (by rw [fits, decoded]; simp), fits, decoded, toInt?_zero_significand]

/-- A whole number is its own truncation. -/
theorem toInt?_truncated? {v : FloatValue} {n : Int} (whole : v.toInt? = some n)
    : v.truncated? = some n := by
  cases v with
  | finite negative m q lowerCloser =>
    rcases le_or_gt 0 q with nonneg | fraction
    · simpa [FloatValue.toInt?, FloatValue.truncated?, nonneg] using whole
    · -- with fraction bits both divide by the same power of two
      have notWhole : ¬ (0 ≤ q) := not_le.mpr fraction
      simp only [FloatValue.toInt?, FloatValue.truncated?, ge_iff_le, notWhole, ↓reduceIte]
        at whole ⊢
      split at whole
      · exact whole
      · cases whole
  | nan | infinite => simp [FloatValue.toInt?] at whole

end Number

/-- Truncating a finite float gives the whole float of its truncated value: with no fraction
bits the float itself, and otherwise the float of a whole number below `2^53`. -/
theorem toInt?_truncFloat {x : Float} {negative : Bool} {m : Nat} {q : Int} {lowerCloser : Bool}
    (finite : valueOf x = .finite negative m q lowerCloser)
    : (valueOf (truncFloat x)).toInt? = (valueOf x).truncated? := by
  rcases le_or_gt 0 q with whole | fraction
  · have same : truncFloat x = x := by simp [truncFloat, finite, whole]
    rw [same, finite]
    simp [FloatValue.toInt?, FloatValue.truncated?, whole]
  · obtain ⟨k, rfl⟩ : ∃ k : ℕ, q = -(k : ℤ) := ⟨(-q).toNat, by omega⟩
    have positive : k ≠ 0 := by omega
    have cut : truncFloat x = (floatOfRational negative (m / 2 ^ k) 1).1 := by
      simp [truncFloat, finite, positive, Nat.pow_eq]
    have truncated : (valueOf x).truncated?
        = some (if negative then -((m / 2 ^ k : ℕ) : ℤ) else ((m / 2 ^ k : ℕ) : ℤ)) := by
      simp [finite, FloatValue.truncated?, positive, Int.pow_eq]
    rw [cut, truncated]
    rcases Nat.eq_zero_or_pos (m / 2 ^ k) with zero | pos
    · rw [zero, floatOfRational_zero]
      simp
    · have small : m / 2 ^ k < 2 ^ 53 :=
        lt_of_le_of_lt (Nat.div_le_self _ _) (valueOf_shape finite).small
      exact floatOfRational_whole negative pos small

/-- A finite float equals its truncation exactly when it is whole. -/
theorem beq_truncFloat_iff {x : Float} {negative : Bool} {m : Nat} {q : Int} {lowerCloser : Bool}
    (finite : valueOf x = .finite negative m q lowerCloser)
    : (x == truncFloat x) = true ↔ ∃ n, (valueOf x).toInt? = some n := by
  obtain ⟨t, truncation⟩ : ∃ t, (valueOf x).truncated? = some t := by
    simp [finite, FloatValue.truncated?]
  rw [beq_iff_of_whole ((toInt?_truncFloat finite).trans truncation)]
  constructor
  · intro whole
    exact ⟨t, whole⟩
  · rintro ⟨n, whole⟩
    have same : n = t := Option.some.inj ((toInt?_truncated? whole).symm.trans truncation)
    rw [whole, same]

/-- The infinities and NaN are their own truncations. -/
theorem truncFloat_of_not_finite {x : Float}
    (notFinite : ∀ negative m q lowerCloser, valueOf x ≠ .finite negative m q lowerCloser)
    : truncFloat x = x := by
  unfold truncFloat
  split
  · rename_i decoded
    exact absurd decoded (notFinite _ _ _ _)
  · rfl

/-- A float differs from its truncation exactly when it is neither infinite nor whole: NaN
equals nothing, an infinity is its own truncation and a finite float is when it is whole. -/
theorem bne_truncFloat_iff (f : Float)
    : (f != truncFloat f) = true
      ↔ (∀ negative, valueOf f ≠ .infinite negative) ∧ ∀ n, (valueOf f).toInt? ≠ some n := by
  simp only [bne, Bool.not_eq_eq_eq_not, Bool.not_true]
  cases decoded : valueOf f with
  | nan =>
    have unequal : (f == truncFloat f) = false := by
      rw [← Bool.not_eq_true, float_beq_iff, decoded]
      simp
    simp [unequal, FloatValue.toInt?]
  | infinite negative =>
    have kept : truncFloat f = f := truncFloat_of_not_finite (by simp [decoded])
    have equal : (f == truncFloat f) = true := by
      rw [kept, float_beq_iff, decoded]
      simp
    simp [equal]
  | finite negative m q lowerCloser =>
    rw [← Bool.not_eq_true, beq_truncFloat_iff decoded, decoded]
    simp

-----------------------------------------------------------------------------------------
-- Whole floats and the floats of integers
-----------------------------------------------------------------------------------------

/-- The integer of a whole float converts back to that float: a whole float with fraction bits
is below `2^53`, and one without is a full significand shifted left. -/
theorem floatOfInt_whole {x : Float} {n : Int} (whole : (valueOf x).toInt? = some n)
    : (valueOf (floatOfInt n)).toInt? = some n := by
  obtain ⟨negative, m, q, lowerCloser, finite⟩ :
      ∃ negative m q lowerCloser, valueOf x = .finite negative m q lowerCloser := by
    cases decoded : valueOf x with
    | finite negative m q lowerCloser => exact ⟨negative, m, q, lowerCloser, rfl⟩
    | nan | infinite => simp [decoded, FloatValue.toInt?] at whole
  have shape := valueOf_shape finite
  rw [finite] at whole
  rcases le_or_gt 0 q with nonneg | fraction
  · obtain ⟨k, rfl⟩ := Int.eq_ofNat_of_zero_le nonneg
    -- an exponent that is not the least one comes with all 53 bits of significand
    have full : 2 ^ 52 ≤ m := shape.full.resolve_left (by omega)
    have value : n = if negative then -((m * 2 ^ k : ℕ) : ℤ) else ((m * 2 ^ k : ℕ) : ℤ) := by
      simp only [FloatValue.toInt?, if_pos nonneg, Int.toNat_natCast, Option.some.injEq] at whole
      rw [← whole]
      simp [Int.pow_eq]
    have magnitude : 0 < m * 2 ^ k := by positivity
    have natAbs : n.natAbs = m * 2 ^ k := by
      rw [value]
      cases negative <;> simp only [Bool.false_eq_true, ↓reduceIte, Int.natAbs_neg,
        Int.natAbs_natCast]
    have sign : decide (n < 0) = negative := by
      rw [value]
      cases negative
      · simp
      · simpa using magnitude
    rw [floatOfInt, natAbs, sign, floatOfRational_shifted negative full shape.small
      (by have := shape.most; omega), value]
  · -- with fraction bits the integer is at most the significand, below `2^53`
    apply floatOfInt_exact
    obtain ⟨k, rfl⟩ : ∃ k : ℕ, q = -(k : ℤ) := ⟨(-q).toNat, by omega⟩
    have notWhole : ¬ (0 ≤ -(k : ℤ)) := by omega
    simp only [FloatValue.toInt?, ge_iff_le, notWhole, ↓reduceIte, neg_neg, Int.toNat_natCast,
      Int.pow_eq] at whole
    split at whole
    · have bound : (m : ℤ) / 2 ^ k ≤ m := Int.ediv_le_self _ (by positivity)
      have nonneg : 0 ≤ (m : ℤ) / 2 ^ k := Int.ediv_nonneg (by positivity) (by positivity)
      have small := shape.small
      cases negative <;> simp at whole <;> omega
    · cases whole

theorem zeroFloat_whole : (valueOf (floatOfInt 0)).toInt? = some 0 :=
  floatOfInt_exact (by decide)

/-- The float of the least 64-bit integer is `-2^63`. -/
theorem minInt64Float_whole : (valueOf minInt64Float).toInt? = some (-2 ^ 63) := by
  decide

/-- The float of the largest 64-bit integer rounds up to `2^63`. -/
theorem maxInt64Float_whole : (valueOf maxInt64Float).toInt? = some (2 ^ 63) := by
  decide

/-- The float of the largest unsigned 64-bit integer rounds up to `2^64`. -/
theorem maxUint64Float_whole : (valueOf maxUint64Float).toInt? = some (2 ^ 64) := by
  decide

-----------------------------------------------------------------------------------------
-- The test of a whole-number width
-----------------------------------------------------------------------------------------

section Guard

variable {low high : Float} {L H : Int}

/-- The test a whole-number width makes of a float `f` converted to `c`, between the whole
floats `low` and `high` of the integers `L` and `H`: it passes when `f` is whole with an
integer in `[L, H)` and the float of `c` is that integer. -/
theorem guard_iff (wholeLow : (valueOf low).toInt? = some L)
    (wholeHigh : (valueOf high).toInt? = some H) (f : Float) (c : Int)
    : (if (f != truncFloat f || f < low || f ≥ high) = true then false
        else floatOfInt c == f) = true
      ↔ ∃ n, (valueOf f).toInt? = some n ∧ L ≤ n ∧ n < H
        ∧ (valueOf (floatOfInt c)).toInt? = some n := by
  obtain ⟨numberLow, extendedLow⟩ := toInt?_eq_some_iff.mp wholeLow
  obtain ⟨numberHigh, extendedHigh⟩ := toInt?_eq_some_iff.mp wholeHigh
  cases decoded : valueOf f with
  | nan =>
    have differs : (f != truncFloat f) = true :=
      (bne_truncFloat_iff f).mpr ⟨by simp [decoded], by simp [decoded, FloatValue.toInt?]⟩
    simp [differs, FloatValue.toInt?]
  | infinite negative =>
    have same : (f != truncFloat f) = false := by
      rw [← Bool.not_eq_true, bne_truncFloat_iff, decoded]
      simp
    -- the infinities lie beyond both ends
    cases negative
    · have above : high ≤ f := by
        rw [float_le_iff, extendedHigh, decoded]
        simp [numberHigh, FloatValue.extended]
      simp [same, above, FloatValue.toInt?]
    · have below : f < low := by
        rw [float_lt_iff, extendedLow, decoded]
        simp [numberLow, FloatValue.extended]
      simp [same, below, FloatValue.toInt?]
  | finite negative m q lowerCloser =>
    by_cases whole : ∃ n, (valueOf f).toInt? = some n
    · obtain ⟨n, wholeF⟩ := whole
      have same : (f != truncFloat f) = false := by
        rw [← Bool.not_eq_true, bne_truncFloat_iff]
        exact fun neither => neither.2 n wholeF
      -- a whole float is compared with the ends as its integer
      have byInteger : (f != truncFloat f || f < low || f ≥ high) = decide (n < L ∨ H ≤ n) := by
        simp [same, lt_iff_of_whole wholeF wholeLow, le_iff_of_whole wholeHigh wholeF]
      rw [byInteger, ← decoded]
      constructor
      · intro passes
        split_ifs at passes with outside
        simp only [decide_eq_true_eq, not_or, not_lt, not_le] at outside
        exact ⟨n, wholeF, outside.1, outside.2, (beq_iff_of_whole wholeF).mp passes⟩
      · rintro ⟨n', wholeF', lowN, highN, back⟩
        have same : n' = n := Option.some.inj (wholeF'.symm.trans wholeF)
        subst same
        rw [if_neg (by simp; omega)]
        exact (beq_iff_of_whole wholeF).mpr back
    · have differs : (f != truncFloat f) = true :=
        (bne_truncFloat_iff f).mpr ⟨by simp [decoded], fun n wholeF => whole ⟨n, wholeF⟩⟩
      rw [← decoded]
      simp only [differs, Bool.true_or, ↓reduceIte, Bool.false_eq_true, false_iff, not_exists,
        not_and]
      exact fun n wholeF => absurd ⟨n, wholeF⟩ whole

/-- The test of a whole-number width whose range `[lo, hi]` lies in `[L, H)` and either fills
it or holds only integers whose floats are exact, with a conversion exact on the range and
into it: it holds exactly of the whole floats with an integer in the range. -/
theorem guard_iff_in_range (wholeLow : (valueOf low).toInt? = some L)
    (wholeHigh : (valueOf high).toInt? = some H) {lo hi : Int}
    (inside : L ≤ lo ∧ hi < H) (ends : (lo = L ∧ hi = H - 1) ∨ (-2 ^ 53 ≤ lo ∧ hi ≤ 2 ^ 53))
    (f : Float) {c : Int} (within : lo ≤ c ∧ c ≤ hi)
    (exact : ∀ n, (valueOf f).toInt? = some n → lo ≤ n → n ≤ hi → c = n)
    : (if (f != truncFloat f || f < low || f ≥ high) = true then false
        else floatOfInt c == f) = true
      ↔ ∃ n, (valueOf f).toInt? = some n ∧ lo ≤ n ∧ n ≤ hi := by
  rw [guard_iff wholeLow wholeHigh]
  constructor
  · rintro ⟨n, wholeF, lowN, highN, back⟩
    refine ⟨n, wholeF, ?_⟩
    rcases ends with ⟨rfl, rfl⟩ | ⟨exactLow, exactHigh⟩
    · omega
    · -- the float of a number in the range is exact, so the number is the float's integer
      have converted : c = n :=
        Option.some.inj ((floatOfInt_exact (by omega)).symm.trans back)
      omega
  · rintro ⟨n, wholeF, lowN, highN⟩
    refine ⟨n, wholeF, by omega, by omega, ?_⟩
    rw [exact n wholeF lowN highN]
    exact floatOfInt_whole wholeF

end Guard

-----------------------------------------------------------------------------------------
-- Conversions and the widths
-----------------------------------------------------------------------------------------

/-- What converting a float to a width may give: a float whose truncation toward zero lies in
the width's range converts to that truncation, and every float converts to some number of the
width. The language leaves which number to the platform for the others. -/
structure NumberWidth.Conversion (w : NumberWidth) (convert : Float → Int) : Prop where
  exact : ∀ {lo hi n : Int} {f : Float}, w.range? = some (lo, hi)
    → (valueOf f).truncated? = some n → lo ≤ n → n ≤ hi → convert f = n
  within : ∀ {lo hi : Int} (f : Float), w.range? = some (lo, hi) → lo ≤ convert f ∧ convert f ≤ hi

namespace NumberWidth

theorem range_nonempty {w : NumberWidth} {lo hi : Int} (range : w.range? = some (lo, hi))
    : lo ≤ hi := by
  cases w <;> simp only [NumberWidth.range?, reduceCtorEq, Option.some.injEq,
    Prod.mk.injEq] at range <;> obtain ⟨rfl, rfl⟩ := range <;> decide

/-- A statement for every range of a width is one for its range. -/
theorem forall_range_iff {w : NumberWidth} {lo hi : Int} (range : w.range? = some (lo, hi))
    {P : Int → Int → Prop} : (∀ lo' hi', w.range? = some (lo', hi') → P lo' hi') ↔ P lo hi := by
  constructor
  · intro all
    exact all lo hi range
  · intro holds lo' hi' range'
    rw [range] at range'
    obtain ⟨rfl, rfl⟩ := Prod.mk.inj (Option.some.inj range')
    exact holds

/-- Wrapping keeps a number of the range and brings every other number into it. -/
theorem wrap_of_range {w : NumberWidth} {lo hi : Int} (range : w.range? = some (lo, hi)) (n : Int)
    : lo ≤ w.wrap n ∧ w.wrap n ≤ hi ∧ (lo ≤ n → n ≤ hi → w.wrap n = n) := by
  have size : 0 < hi - lo + 1 := by have := range_nonempty range; omega
  have low := Int.emod_nonneg (n - lo) size.ne'
  have high := Int.emod_lt_of_pos (n - lo) size
  simp only [wrap, range]
  refine ⟨by omega, by omega, fun lowN highN => ?_⟩
  rw [Int.emod_eq_of_lt (by omega) (by omega)]
  omega

/-- The conversion made here is one the language allows. -/
theorem convert_conversion (w : NumberWidth) : w.Conversion w.convert where
  exact range truncation lowN highN := by
    rw [convert, truncation, Option.getD_some]
    exact (wrap_of_range range _).2.2 lowN highN
  within f range := ⟨(wrap_of_range range _).1, (wrap_of_range range _).2.1⟩

variable {w : NumberWidth} {convert : Float → Int}

/-- A whole-number width holds exactly the whole floats of its range, and a float width every
float. -/
theorem representableWith_iff (conversion : w.Conversion convert) (f : Float)
    : w.representableWith convert f = true
      ↔ ∀ lo hi, w.range? = some (lo, hi)
        → ∃ n, (valueOf f).toInt? = some n ∧ lo ≤ n ∧ n ≤ hi := by
  cases range : w.range? with
  | none =>
    have float : w = .float32 ∨ w = .float64 := by
      cases w <;> simp_all [NumberWidth.range?]
    rcases float with rfl | rfl <;> simp [representableWith]
  | some bounds =>
    obtain ⟨lo, hi⟩ := bounds
    rw [← range, forall_range_iff range]
    have within := conversion.within f range
    have exact (n : Int) (wholeF : (valueOf f).toInt? = some n) (lowN : lo ≤ n) (highN : n ≤ hi)
        : convert f = n := conversion.exact range (toInt?_truncated? wholeF) lowN highN
    -- the signed widths test against the ends of the 64-bit range, the unsigned ones against
    -- zero and the end of the unsigned 64-bit range
    cases w <;> simp only [NumberWidth.range?, reduceCtorEq, Option.some.injEq,
        Prod.mk.injEq] at range <;> obtain ⟨rfl, rfl⟩ := range
    case int8 | int16 | int32 | int64 =>
      exact guard_iff_in_range minInt64Float_whole maxInt64Float_whole (by decide) (by decide)
        f within exact
    case uint8 | uint16 | uint32 | uint64 =>
      exact guard_iff_in_range zeroFloat_whole maxUint64Float_whole (by decide)
        (by decide) f within exact

/-- A float a whole-number width holds converts to its own integer. -/
theorem representableWith_exact (conversion : w.Conversion convert) {f : Float}
    (holds : w.representableWith convert f = true) {lo hi : Int}
    (range : w.range? = some (lo, hi)) : (valueOf f).toInt? = some (convert f) := by
  obtain ⟨n, wholeF, lowN, highN⟩ := (representableWith_iff conversion f).mp holds lo hi range
  rw [wholeF, conversion.exact range (toInt?_truncated? wholeF) lowN highN]

end NumberWidth

/-- A whole-number width holds a float exactly when the float is whole with an integer in the
width's range, and then converts it to that integer; a float width holds every float. NaN, the
infinities and floats with a fraction are refused, `-0` is held as zero, and the ends of the
64-bit ranges, whose floats round to `2^63` and `2^64`, are compared as those powers. This holds
for every conversion that is exact on the width's range, whatever number of the width it gives
any other float. -/
theorem representable_iff_whole_in_range (w : NumberWidth) {convert : Float → Int}
    (conversion : w.Conversion convert) (f : Float)
    : (w.representableWith convert f = true
        ↔ ∀ lo hi, w.range? = some (lo, hi)
          → ∃ n, (valueOf f).toInt? = some n ∧ lo ≤ n ∧ n ≤ hi)
      ∧ (w.representableWith convert f = true
        → ∀ lo hi, w.range? = some (lo, hi) → (valueOf f).toInt? = some (convert f)) :=
  ⟨NumberWidth.representableWith_iff conversion f,
    fun holds _ _ range => NumberWidth.representableWith_exact conversion holds range⟩

/-- Witness: `int8` with the conversion made here, at the whole float `200`, out of range. -/
theorem int8_two_hundred_out_of_range
    : NumberWidth.int8.Conversion NumberWidth.int8.convert
      ∧ ((NumberWidth.int8.representableWith NumberWidth.int8.convert (floatOfInt 200) = true
          ↔ ∀ lo hi, NumberWidth.int8.range? = some (lo, hi)
            → ∃ n, (valueOf (floatOfInt 200)).toInt? = some n ∧ lo ≤ n ∧ n ≤ hi)
        ∧ (NumberWidth.int8.representableWith NumberWidth.int8.convert (floatOfInt 200) = true
          → ∀ lo hi, NumberWidth.int8.range? = some (lo, hi)
            → (valueOf (floatOfInt 200)).toInt? = some (NumberWidth.int8.convert (floatOfInt 200)))) :=
  ⟨NumberWidth.convert_conversion .int8,
    representable_iff_whole_in_range .int8 (NumberWidth.convert_conversion .int8) (floatOfInt 200)⟩

end Conform
