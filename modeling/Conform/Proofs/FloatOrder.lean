import Mathlib
import Conform.Proofs.FloatRounding
/-! Floats compare as their values do, placed among the rationals with an infinity at either end,
and NaN compares with nothing; whole floats compare as the integers they are.
-/

namespace Conform.Number

open Float.Model

-----------------------------------------------------------------------------------------
-- The float model's form of a decoded number
-----------------------------------------------------------------------------------------

/-- The sign a decoded number has in the float model. -/
def signOf (negative : Bool) : UnpackedFloat.Sign := if negative then .negative else .positive

/-- A decoded number in the float model's unpacked form: a number with no significand is a
zero of its sign. -/
def FloatValue.unpacked : FloatValue → UnpackedFloat
  | .nan => .notANumber
  | .infinite negative => .infinity (signOf negative)
  | .finite negative m q _ =>
    if h : 0 < m then .finite (signOf negative) m q h else .zero (signOf negative)

section Fields

variable (x : Float)

/-- The low 52 bits of a float are its fraction field. -/
theorem unpackMantissa_toNat
    : (@UnpackedFloat.unpackMantissa Format.binary64 x.toBits.toBitVec).toNat
      = x.toBits.toNat % 2 ^ 52 := by
  rw [UnpackedFloat.unpackMantissa_def, BitVec.extractLsb'_toNat]
  simp

/-- The 11 bits above the fraction are the exponent field. -/
theorem unpackExponent_toNat
    : (@UnpackedFloat.unpackExponent Format.binary64 x.toBits.toBitVec).toNat
      = x.toBits.toNat / 2 ^ 52 % 2 ^ 11 := by
  rw [UnpackedFloat.unpackExponent_def, BitVec.extractLsb'_toNat, Nat.shiftRight_eq_div_pow]
  rfl

/-- The top bit is the sign. -/
theorem unpackSign_eq
    : UnpackedFloat.Sign.ofBitVec (@UnpackedFloat.unpackSign Format.binary64 x.toBits.toBitVec)
      = signOf (x.toBits.toNat / 2 ^ (52 + 11) % 2 == 1) := by
  have sign : (@UnpackedFloat.unpackSign Format.binary64 x.toBits.toBitVec).toNat
      = x.toBits.toNat / 2 ^ 63 % 2 := by
    rw [UnpackedFloat.unpackSign_def, BitVec.extractLsb'_toNat, Nat.shiftRight_eq_div_pow]
    rfl
  simp only [UnpackedFloat.Sign.ofBitVec, signOf, ← BitVec.toNat_inj, sign, BitVec.toNat_ofNat]
  by_cases one : x.toBits.toNat / 2 ^ 63 % 2 = 1 <;> simp_all

/-- A normal float's significand is its fraction field with the hidden bit put back. -/
theorem normalSignificand_toNat
    : (1#1 ++ @UnpackedFloat.unpackMantissa Format.binary64 x.toBits.toBitVec).toNat
      = x.toBits.toNat % 2 ^ 52 + 2 ^ 52 := by
  have below : x.toBits.toNat % 2 ^ 52 < 2 ^ 52 := Nat.mod_lt _ (by positivity)
  rw [BitVec.toNat_append, unpackMantissa_toNat]
  erw [← Nat.shiftLeft_add_eq_or_of_lt below]
  simp [Nat.shiftLeft_eq]
  omega

end Fields

/-- The float model unpacks a float's bits to what decoding them gives. -/
theorem unpack_toModel (x : Float) : x.toModel.unpack = (valueOf x).unpacked := by
  have fraction := unpackMantissa_toNat x
  have field := unpackExponent_toNat x
  have normal := normalSignificand_toNat x
  have bits : x.toModel.toBits = x.toBits := rfl
  have allOnes : @UnpackedFloat.unpackExponent Format.binary64 x.toBits.toBitVec = -1#11
      ↔ x.toBits.toNat / 2 ^ 52 % 2 ^ 11 = 2 ^ 11 - 1 := by
    rw [← BitVec.toNat_inj, field]
    rfl
  have zeros : @UnpackedFloat.unpackExponent Format.binary64 x.toBits.toBitVec = 0#11
      ↔ x.toBits.toNat / 2 ^ 52 % 2 ^ 11 = 0 := by
    rw [← BitVec.toNat_inj, field]
    rfl
  have noFraction : @UnpackedFloat.unpackMantissa Format.binary64 x.toBits.toBitVec = 0#52
      ↔ x.toBits.toNat % 2 ^ 52 = 0 := by
    rw [← BitVec.toNat_inj, fraction]
    rfl
  simp only [Float.Model.unpack, UnpackedFloat.unpack, bits, valueOf, FloatFormat.decode,
    FloatFormat.double, FloatFormat.maxField, FloatFormat.bias, FloatFormat.minExponent, Nat.pow_eq,
    unpackSign_eq, allOnes, zeros, noFraction, normal, beq_iff_eq]
  split_ifs with infinite noMantissa subnormal zero
  · rfl
  · rfl
  · have none : ¬ 0 < x.toBits.toNat % 2 ^ 52 := by omega
    simp only [FloatValue.unpacked, none, dif_neg, not_false_eq_true]
  · have positive : 0 < x.toBits.toNat % 2 ^ 52 := Nat.pos_of_ne_zero zero
    simp only [FloatValue.unpacked, positive, dif_pos, fraction, field, subnormal]
    rfl
  · have positive : 0 < x.toBits.toNat % 2 ^ 52 + 2 ^ 52 := by positivity
    have bias : (Format.binary64.exponentBias : Int) = ((2 ^ (11 - 1) - 1 : Nat) : Int) := rfl
    simp only [FloatValue.unpacked, positive, dif_pos]
    congr 1
    omega

-----------------------------------------------------------------------------------------
-- Values
-----------------------------------------------------------------------------------------

/-- The exact value of a finite number, `±m · 2^q`, and zero for the others. -/
def FloatValue.value : FloatValue → ℚ
  | .finite negative m q _ => if negative then -((m : ℚ) * 2 ^ q) else (m : ℚ) * 2 ^ q
  | _ => 0

/-- A number's value among the rationals with an infinity at either end; NaN, which compares
with nothing, is put at zero. -/
def FloatValue.extended : FloatValue → WithBot (WithTop ℚ)
  | .nan => ((0 : ℚ) : WithTop ℚ)
  | .infinite negative => if negative then ⊥ else ⊤
  | .finite negative m q lowerCloser =>
    ((FloatValue.finite negative m q lowerCloser).value : WithTop ℚ)

/-- A finite number has the shape decoding gives. -/
def FloatValue.Shaped : FloatValue → Prop
  | .finite _ m q _ => DoubleShape m q
  | _ => True

theorem valueOf_shaped (x : Float) : (valueOf x).Shaped := by
  cases decoded : valueOf x with
  | finite negative m q lowerCloser => exact valueOf_shape decoded
  | nan | infinite => trivial

theorem cmp_extended_coe (a b : ℚ)
    : cmp (((a : WithTop ℚ) : WithBot (WithTop ℚ))) ((b : WithTop ℚ) : WithBot (WithTop ℚ))
      = cmp a b :=
  (WithBot.coe_strictMono.comp WithTop.coe_strictMono).cmp_map_eq a b

-----------------------------------------------------------------------------------------
-- Comparing magnitudes
-----------------------------------------------------------------------------------------

namespace DoubleShape

variable {m₁ m₂ : Nat} {q₁ q₂ : Int}

/-- A smaller exponent means a smaller magnitude: the larger exponent is not the least one, so
its significand has all 53 bits. -/
theorem magnitude_lt (shape₁ : DoubleShape m₁ q₁) (shape₂ : DoubleShape m₂ q₂) (lower : q₁ < q₂)
    : (m₁ : ℚ) * 2 ^ q₁ < m₂ * 2 ^ q₂ := by
  have full : 2 ^ 52 ≤ m₂ := shape₂.full.resolve_left (by have := shape₁.least; omega)
  have small : (m₁ : ℚ) < 2 ^ 53 := by exact_mod_cast shape₁.small
  calc (m₁ : ℚ) * 2 ^ q₁ < 2 ^ 53 * 2 ^ q₁ := by gcongr
    _ = 2 ^ 52 * 2 ^ (q₁ + 1) := by rw [zpow_add_one₀ two_ne_zero]; ring
    _ ≤ 2 ^ 52 * 2 ^ q₂ := by gcongr <;> norm_num; omega
    _ ≤ m₂ * 2 ^ q₂ := by gcongr; exact_mod_cast full

/-- Comparing exponents, then significands, compares magnitudes. -/
theorem compares (shape₁ : DoubleShape m₁ q₁) (shape₂ : DoubleShape m₂ q₂)
    : ((compare q₁ q₂).then (compare m₁ m₂)).Compares ((m₁ : ℚ) * 2 ^ q₁) (m₂ * 2 ^ q₂) := by
  rcases lt_trichotomy q₁ q₂ with lower | rfl | higher
  · rw [Int.compare_eq_lt.mpr lower]
    exact shape₁.magnitude_lt shape₂ lower
  · -- at one exponent the magnitudes are the significands scaled alike
    have scaled : cmp ((m₁ : ℚ) * 2 ^ q₁) (m₂ * 2 ^ q₁) = compare m₁ m₂ := by
      rw [cmp_mul_pos_right (by positivity), Nat.strictMono_cast.cmp_map_eq, cmp_eq_compare]
    rw [Int.compare_eq_eq.mpr rfl, ← scaled]
    exact cmp_compares _ _
  · rw [Int.compare_eq_gt.mpr higher]
    exact shape₂.magnitude_lt shape₁ higher

end DoubleShape

-----------------------------------------------------------------------------------------
-- Comparing decoded numbers
-----------------------------------------------------------------------------------------

/-- Two finite numbers of the decoded shape compare in the float model as their values do. -/
theorem compare_unpacked_finite {s₁ s₂ c₁ c₂ : Bool} {m₁ m₂ : Nat} {q₁ q₂ : Int}
    (shape₁ : DoubleShape m₁ q₁) (shape₂ : DoubleShape m₂ q₂)
    : UnpackedFloat.compare (FloatValue.finite s₁ m₁ q₁ c₁).unpacked
        (FloatValue.finite s₂ m₂ q₂ c₂).unpacked
      = some (cmp (FloatValue.finite s₁ m₁ q₁ c₁).value (FloatValue.finite s₂ m₂ q₂ c₂).value) := by
  rcases Nat.eq_zero_or_pos m₁ with rfl | pos₁ <;> rcases Nat.eq_zero_or_pos m₂ with rfl | pos₂
  · -- two zeros are equal whatever their signs
    cases s₁ <;> cases s₂ <;> simp [FloatValue.unpacked, FloatValue.value, signOf,
      UnpackedFloat.compare]
  · -- a zero lies below every positive number and above every negative one
    have below : cmp (0 : ℚ) (m₂ * 2 ^ q₂) = .lt := (cmp_eq_lt_iff _ _).mpr (by positivity)
    have above : cmp (0 : ℚ) (-(m₂ * 2 ^ q₂)) = .gt := (cmp_eq_gt_iff _ _).mpr (by
      have : (0 : ℚ) < m₂ * 2 ^ q₂ := by positivity
      linarith)
    cases s₁ <;> cases s₂ <;> simp [FloatValue.unpacked, FloatValue.value, signOf, pos₂,
      UnpackedFloat.compare, below, above]
  · have above : cmp ((m₁ : ℚ) * 2 ^ q₁) 0 = .gt := (cmp_eq_gt_iff _ _).mpr (by positivity)
    have below : cmp (-((m₁ : ℚ) * 2 ^ q₁)) 0 = .lt := (cmp_eq_lt_iff _ _).mpr (by
      have : (0 : ℚ) < m₁ * 2 ^ q₁ := by positivity
      linarith)
    cases s₁ <;> cases s₂ <;> simp [FloatValue.unpacked, FloatValue.value, signOf, pos₁,
      UnpackedFloat.compare, below, above]
  · -- two nonzero numbers compare by sign, then by magnitude
    have magnitude₁ : (0 : ℚ) < m₁ * 2 ^ q₁ := by positivity
    have magnitude₂ : (0 : ℚ) < m₂ * 2 ^ q₂ := by positivity
    have byMagnitude := (shape₁.compares shape₂).cmp_eq
    cases s₁ <;> cases s₂
    · simp [FloatValue.unpacked, FloatValue.value, signOf, pos₁, pos₂, UnpackedFloat.compare,
        byMagnitude]
    · have above : cmp ((m₁ : ℚ) * 2 ^ q₁) (-(m₂ * 2 ^ q₂)) = .gt :=
        (cmp_eq_gt_iff _ _).mpr (by linarith)
      simp [FloatValue.unpacked, FloatValue.value, signOf, pos₁, pos₂, UnpackedFloat.compare,
        above]
    · have below : cmp (-((m₁ : ℚ) * 2 ^ q₁)) (m₂ * 2 ^ q₂) = .lt :=
        (cmp_eq_lt_iff _ _).mpr (by linarith)
      simp [FloatValue.unpacked, FloatValue.value, signOf, pos₁, pos₂, UnpackedFloat.compare,
        below]
    · -- negation turns the order of magnitudes around
      have negated : cmp (-((m₁ : ℚ) * 2 ^ q₁)) (-((m₂ : ℚ) * 2 ^ q₂))
          = (cmp ((m₁ : ℚ) * 2 ^ q₁) ((m₂ : ℚ) * 2 ^ q₂)).swap := by
        rw [cmp_swap]
        exact (StrictAnti.cmp_map_eq (fun _ _ lt => neg_lt_neg lt)) _ _
      simp [FloatValue.unpacked, FloatValue.value, signOf, pos₁, pos₂, UnpackedFloat.compare,
        negated, byMagnitude]

/-- Two decoded numbers other than NaN compare in the float model as their values among the
rationals with an infinity at either end. -/
theorem compare_unpacked {a b : FloatValue} (shapeA : a.Shaped) (shapeB : b.Shaped)
    (numberA : a ≠ .nan) (numberB : b ≠ .nan)
    : UnpackedFloat.compare a.unpacked b.unpacked = some (cmp a.extended b.extended) := by
  -- the infinities lie beyond every rational
  have bottom (v : ℚ) : cmp (⊥ : WithBot (WithTop ℚ)) ((v : WithTop ℚ)) = .lt :=
    (cmp_eq_lt_iff _ _).mpr (WithBot.bot_lt_coe _)
  have top (v : ℚ) : cmp (⊤ : WithBot (WithTop ℚ)) ((v : WithTop ℚ)) = .gt :=
    (cmp_eq_gt_iff _ _).mpr (WithBot.coe_lt_coe.mpr (WithTop.coe_lt_top _))
  have bottom' (v : ℚ) : cmp ((v : WithTop ℚ) : WithBot (WithTop ℚ)) ⊥ = .gt :=
    (cmp_eq_gt_iff _ _).mpr (WithBot.bot_lt_coe _)
  have top' (v : ℚ) : cmp ((v : WithTop ℚ) : WithBot (WithTop ℚ)) ⊤ = .lt :=
    (cmp_eq_lt_iff _ _).mpr (WithBot.coe_lt_coe.mpr (WithTop.coe_lt_top _))
  cases a with
  | nan => contradiction
  | infinite negative₁ =>
    cases b with
    | nan => contradiction
    | infinite negative₂ => cases negative₁ <;> cases negative₂ <;> rfl
    | finite s₂ m₂ q₂ c₂ =>
      simp only [FloatValue.unpacked]
      split <;> cases negative₁ <;> cases s₂ <;>
        simp [FloatValue.extended, signOf, UnpackedFloat.compare, bottom, top]
  | finite s₁ m₁ q₁ c₁ =>
    cases b with
    | nan => contradiction
    | infinite negative₂ =>
      simp only [FloatValue.unpacked]
      split <;> cases negative₂ <;> cases s₁ <;>
        simp [FloatValue.extended, signOf, UnpackedFloat.compare, bottom', top']
    | finite s₂ m₂ q₂ c₂ =>
      rw [FloatValue.extended, FloatValue.extended, cmp_extended_coe]
      exact compare_unpacked_finite shapeA shapeB

theorem compare_unpacked_nan (a : FloatValue)
    : UnpackedFloat.compare a.unpacked .notANumber = none := by
  cases a with
  | finite negative m q lowerCloser =>
    simp only [FloatValue.unpacked]
    split <;> rfl
  | nan | infinite => rfl

-----------------------------------------------------------------------------------------
-- Comparing floats
-----------------------------------------------------------------------------------------

/-- Floats compare as their values do, among the rationals with an infinity at either end; NaN
compares with nothing. -/
theorem compare_toModel (x y : Float)
    : UnpackedFloat.compare x.toModel.unpack y.toModel.unpack
      = if valueOf x = .nan ∨ valueOf y = .nan then none
        else some (cmp (valueOf x).extended (valueOf y).extended) := by
  rw [unpack_toModel, unpack_toModel]
  split_ifs with unordered
  · rcases unordered with nanX | nanY
    · rw [nanX]
      rfl
    · rw [nanY]
      exact compare_unpacked_nan _
  · simp only [not_or] at unordered
    exact compare_unpacked (valueOf_shaped x) (valueOf_shaped y) unordered.1 unordered.2

theorem float_lt_iff {x y : Float}
    : x < y ↔ valueOf x ≠ .nan ∧ valueOf y ≠ .nan ∧ (valueOf x).extended < (valueOf y).extended := by
  show decide (x.toModel < y.toModel) = true ↔ _
  rw [decide_eq_true_iff]
  show (UnpackedFloat.compare x.toModel.unpack y.toModel.unpack == some .lt) = true ↔ _
  rw [compare_toModel]
  split_ifs with unordered
  · simp only [reduceCtorEq, beq_iff_eq, false_iff]
    tauto
  · simp only [not_or] at unordered
    simp [unordered]

theorem float_le_iff {x y : Float}
    : x ≤ y ↔ valueOf x ≠ .nan ∧ valueOf y ≠ .nan ∧ (valueOf x).extended ≤ (valueOf y).extended := by
  show decide (x.toModel ≤ y.toModel) = true ↔ _
  rw [decide_eq_true_iff]
  show ((UnpackedFloat.compare x.toModel.unpack y.toModel.unpack).any (·.isLE)) = true ↔ _
  rw [compare_toModel]
  split_ifs with unordered
  · simp only [Option.any_none, Bool.false_eq_true, false_iff]
    tauto
  · simp only [not_or] at unordered
    simp [unordered, Ordering.isLE_iff_ne_gt]

theorem float_beq_iff {x y : Float}
    : (x == y) = true
      ↔ valueOf x ≠ .nan ∧ valueOf y ≠ .nan ∧ (valueOf x).extended = (valueOf y).extended := by
  show (UnpackedFloat.compare x.toModel.unpack y.toModel.unpack == some .eq) = true ↔ _
  rw [compare_toModel]
  split_ifs with unordered
  · simp only [reduceCtorEq, beq_iff_eq, false_iff]
    tauto
  · simp only [not_or] at unordered
    simp [unordered]

-----------------------------------------------------------------------------------------
-- Whole floats
-----------------------------------------------------------------------------------------

/-- A finite number is whole, with integer `n`, exactly when its value is `n`. -/
theorem toInt?_finite_eq_some_iff {negative : Bool} {m : Nat} {q : Int} {lowerCloser : Bool}
    {n : Int}
    : (FloatValue.finite negative m q lowerCloser).toInt? = some n
      ↔ (FloatValue.finite negative m q lowerCloser).value = n := by
  -- both sides put the sign on last
  have signed (v : ℤ) : (if negative then -v else v) = n
      ↔ (if negative then -(v : ℚ) else (v : ℚ)) = n := by
    cases negative <;> simp only [Bool.false_eq_true, ↓reduceIte] <;> norm_cast
  rcases le_or_gt 0 q with whole | fraction
  · obtain ⟨k, rfl⟩ := Int.eq_ofNat_of_zero_le whole
    have power : (((m : ℤ) * Int.pow 2 k : ℤ) : ℚ) = m * 2 ^ (k : ℤ) := by
      simp [Int.pow_eq]
    simp only [FloatValue.toInt?, FloatValue.value, if_pos whole, Int.toNat_natCast,
      Option.some.injEq]
    rw [signed, power]
  · obtain ⟨k, rfl⟩ : ∃ k : ℕ, q = -(k : ℤ) := ⟨(-q).toNat, by omega⟩
    have notWhole : ¬ (0 ≤ -(k : ℤ)) := by omega
    have power : (m : ℚ) * 2 ^ (-(k : ℤ)) = m / 2 ^ k := by
      rw [zpow_neg, zpow_natCast, div_eq_mul_inv]
    by_cases divides : m % 2 ^ k = 0
    · -- the division by `2^k` is exact
      have exact : (((m : ℤ) / Int.pow 2 k : ℤ) : ℚ) = m / 2 ^ k := by
        obtain ⟨r, rfl⟩ := Nat.dvd_of_mod_eq_zero divides
        have positive : (2 : ℤ) ^ k ≠ 0 := by positivity
        simp [Int.pow_eq, Int.mul_ediv_cancel_left _ positive]
      simp only [FloatValue.toInt?, FloatValue.value, if_neg notWhole, neg_neg,
        Int.toNat_natCast, Nat.pow_eq, divides, beq_self_eq_true, ↓reduceIte, Option.some.injEq]
      rw [signed, exact, power]
    · -- a remainder is left, and the value is no integer
      simp only [FloatValue.toInt?, FloatValue.value, if_neg notWhole, neg_neg,
        Int.toNat_natCast, Nat.pow_eq, beq_iff_eq, divides, ↓reduceIte, reduceCtorEq, false_iff,
        power]
      intro whole
      apply divides
      have scaled : ((m : ℤ) : ℚ) = (((if negative then -n else n) * 2 ^ k : ℤ) : ℚ) := by
        have positive : (2 : ℚ) ^ k ≠ 0 := by positivity
        cases negative <;> simp only [Bool.false_eq_true, ↓reduceIte] at whole ⊢ <;> push_cast <;>
          field_simp at whole ⊢ <;> linarith
      have multiple : ((2 ^ k : ℕ) : ℤ) ∣ (m : ℤ) :=
        ⟨if negative then -n else n, by push_cast; rw [Int.cast_inj.mp scaled]; ring⟩
      exact Nat.mod_eq_zero_of_dvd (Int.natCast_dvd_natCast.mp multiple)

/-- A number is whole, with integer `n`, exactly when it is no NaN and its value is `n`. -/
theorem toInt?_eq_some_iff {v : FloatValue} {n : Int}
    : v.toInt? = some n ↔ v ≠ .nan ∧ v.extended = ((n : ℚ) : WithTop ℚ) := by
  cases v with
  | nan => simp [FloatValue.toInt?]
  | infinite negative =>
    -- the infinities are no rationals
    cases negative <;> simp [FloatValue.toInt?, FloatValue.extended]
  | finite negative m q lowerCloser =>
    rw [toInt?_finite_eq_some_iff, FloatValue.extended]
    simp

section Whole

variable {x y : Float} {a b : Int}

/-- Whole floats compare as the integers they are. -/
theorem lt_iff_of_whole (wholeX : (valueOf x).toInt? = some a)
    (wholeY : (valueOf y).toInt? = some b) : x < y ↔ a < b := by
  obtain ⟨numberX, valueX⟩ := toInt?_eq_some_iff.mp wholeX
  obtain ⟨numberY, valueY⟩ := toInt?_eq_some_iff.mp wholeY
  rw [float_lt_iff, valueX, valueY]
  simp [numberX, numberY]

theorem le_iff_of_whole (wholeX : (valueOf x).toInt? = some a)
    (wholeY : (valueOf y).toInt? = some b) : x ≤ y ↔ a ≤ b := by
  obtain ⟨numberX, valueX⟩ := toInt?_eq_some_iff.mp wholeX
  obtain ⟨numberY, valueY⟩ := toInt?_eq_some_iff.mp wholeY
  rw [float_le_iff, valueX, valueY]
  simp [numberX, numberY]

/-- A float equals a whole float exactly when it is whole with the same integer. -/
theorem beq_iff_of_whole (wholeY : (valueOf y).toInt? = some b)
    : (x == y) = true ↔ (valueOf x).toInt? = some b := by
  obtain ⟨numberY, valueY⟩ := toInt?_eq_some_iff.mp wholeY
  rw [float_beq_iff, toInt?_eq_some_iff, valueY]
  tauto

end Whole

end Conform.Number
