import Mathlib
import Conform.Proofs.DateBounds
/-! The places after a decimal's point are the least `k` that makes it times `10^k` whole, so the
rule for `N` places passes exactly when `N` is not negative and the value times `10^N` is whole.
-/

namespace Conform.Number

/-- The exact value of a decimal. -/
def Decimal.value (d : Decimal) : ℚ := d.coefficient * 10 ^ d.exponent

-----------------------------------------------------------------------------------------
-- The last digits of a number
-----------------------------------------------------------------------------------------

/-- The last `p` decimal digits of `n`, the lowest first, with zeros where `n` has no digit. -/
def lowDigits : Nat → Nat → List Char
  | 0, _ => []
  | p + 1, n => Nat.digitChar (n % 10) :: lowDigits p (n / 10)

@[simp] theorem length_lowDigits (p n : Nat) : (lowDigits p n).length = p := by
  induction p generalizing n with
  | zero => rfl
  | succ p ih => simp [lowDigits, ih]

theorem lowDigits_zero (p : Nat) : lowDigits p 0 = List.replicate p '0' := by
  induction p with
  | zero => rfl
  | succ p ih => simp [lowDigits, ih, List.replicate_succ, Nat.digitChar]

/-- The digit of a number below ten is `0` exactly for zero. -/
theorem digitChar_eq_zero_iff {d : Nat} (small : d < 10) : Nat.digitChar d = '0' ↔ d = 0 := by
  interval_cases d <;> decide

/-- A number of `10^p` or more is written as its leading part followed by its last `p` digits,
by induction on `p`, splitting off the last digit each time. -/
theorem toDigits_split {p n : Nat} (large : 10 ^ p ≤ n)
    : Nat.toDigits 10 n = Nat.toDigits 10 (n / 10 ^ p) ++ (lowDigits p n).reverse := by
  induction p generalizing n with
  | zero => simp [lowDigits]
  | succ p ih =>
    have ten : 10 ≤ n := le_trans (Nat.le_self_pow (Nat.succ_ne_zero p) 10) large
    have rest : 10 ^ p ≤ n / 10 := (Nat.le_div_iff_mul_le (by norm_num)).mpr (by
      rw [← pow_succ]
      exact large)
    rw [Nat.toDigits_of_base_le (by norm_num) ten, ih rest, Nat.div_div_eq_div_mul, ← pow_succ']
    simp [lowDigits]

/-- A number below `10^p`, padded in front with zeros to `p` digits, is its last `p` digits, by
induction on `p`. -/
theorem pad_toDigits {p n : Nat} (pos : 0 < p) (small : n < 10 ^ p)
    : List.replicate (p - (Nat.toDigits 10 n).length) '0' ++ Nat.toDigits 10 n
      = (lowDigits p n).reverse := by
  induction p generalizing n with
  | zero => omega
  | succ p ih =>
    rcases Nat.lt_or_ge n 10 with one | more
    · -- a single digit, and zeros for the rest
      rw [Nat.toDigits_of_lt_base one]
      simp [lowDigits, Nat.div_eq_of_lt one, Nat.mod_eq_of_lt one, lowDigits_zero]
    · have pos' : 0 < p := by
        rcases Nat.eq_zero_or_pos p with rfl | pos'
        · simp at small
          omega
        · exact pos'
      have small' : n / 10 < 10 ^ p := by
        rw [Nat.div_lt_iff_lt_mul (by norm_num), ← pow_succ]
        exact small
      have shorter := ih pos' small'
      have width : (Nat.toDigits 10 (n / 10)).length ≤ p :=
        (Nat.length_toDigits_le_iff (by norm_num) pos').mpr small'
      have zeros : p + 1 - ((Nat.toDigits 10 (n / 10)).length + 1)
          = p - (Nat.toDigits 10 (n / 10)).length := by omega
      rw [Nat.toDigits_of_base_le (by norm_num) more, List.length_append, ← List.append_assoc]
      simp only [List.length_singleton, lowDigits, List.reverse_cons, zeros]
      rw [← shorter]

/-- Dropping the zeros at the end of the last `p` digits of `n` leaves at most `k` of them
exactly when `10^(p - k)` divides `n`, by induction on `p`: a last digit `0` is dropped and
divides out one ten, and any other last digit stops the dropping. -/
theorem dropZeros_length_le_iff {p k : Nat} (n : Nat) (within : k ≤ p)
    : ((lowDigits p n).dropWhile (· == '0')).length ≤ k ↔ 10 ^ (p - k) ∣ n := by
  induction p generalizing n k with
  | zero =>
    have : k = 0 := by omega
    subst this
    simp [lowDigits]
  | succ p ih =>
    have digit : n % 10 < 10 := Nat.mod_lt n (by norm_num)
    by_cases zero : n % 10 = 0
    · have dropped : (lowDigits (p + 1) n).dropWhile (· == '0')
          = (lowDigits p (n / 10)).dropWhile (· == '0') := by
        simp [lowDigits, zero, Nat.digitChar]
      rw [dropped]
      rcases Nat.lt_or_ge k (p + 1) with below | top
      · -- one ten divides out of `n` and of the power
        have tens : 10 ^ (p + 1 - k) = 10 * 10 ^ (p - k) := by
          rw [← pow_succ']
          congr 1
          omega
        have whole : n = 10 * (n / 10) := by omega
        rw [ih (n / 10) (by omega), tens]
        conv_rhs => rw [whole]
        exact (Nat.mul_dvd_mul_iff_left (by norm_num)).symm
      · have : k = p + 1 := by omega
        subst this
        have short := List.length_dropWhile_le (· == '0') (lowDigits p (n / 10))
        simp only [length_lowDigits] at short
        simp only [Nat.sub_self, pow_zero, one_dvd, iff_true]
        omega
    · have kept : (lowDigits (p + 1) n).dropWhile (· == '0') = lowDigits (p + 1) n := by
        have notZero : Nat.digitChar (n % 10) ≠ '0' := fun h =>
          zero ((digitChar_eq_zero_iff digit).mp h)
        simp [lowDigits, notZero]
      rw [kept, length_lowDigits]
      constructor
      · intro top
        have : k = p + 1 := by omega
        subst this
        simp
      · intro divides
        by_contra below
        apply zero
        have tenDivides : 10 ∣ n :=
          (dvd_pow_self 10 (by omega : p + 1 - k ≠ 0)).trans divides
        omega

-----------------------------------------------------------------------------------------
-- The places of a decimal's text
-----------------------------------------------------------------------------------------

/-- The number of characters after the first point of a text; none when it has no point. -/
def placesAfterPoint (s : List Char) : Nat :=
  match s.findIdx? (· == '.') with
  | none => 0
  | some i => s.length - i - 1

theorem Decimal.places_eq (d : Decimal) : d.places = placesAfterPoint d.toString.toList := rfl

theorem findIdx?_point_of_free {s : List Char} (free : '.' ∉ s) : s.findIdx? (· == '.') = none := by
  rw [List.findIdx?_eq_none_iff]
  intro c member
  have : c ≠ '.' := fun same => free (same ▸ member)
  simpa using this

theorem placesAfterPoint_of_free {s : List Char} (free : '.' ∉ s) : placesAfterPoint s = 0 := by
  simp [placesAfterPoint, findIdx?_point_of_free free]

theorem placesAfterPoint_append {pre post : List Char} (free : '.' ∉ pre)
    : placesAfterPoint (pre ++ '.' :: post) = post.length := by
  have found : (pre ++ '.' :: post).findIdx? (· == '.') = some pre.length := by
    simp [List.findIdx?_append, List.findIdx?_cons, findIdx?_point_of_free free]
  simp only [placesAfterPoint, found, List.length_append, List.length_cons]
  omega

/-- Digits have no point. -/
theorem point_not_mem_toDigits (n : Nat) : '.' ∉ Nat.toDigits 10 n := fun member => by
  simpa using Nat.isDigit_of_mem_toDigits (by norm_num) (by norm_num) member

/-- A sign has no point. -/
theorem point_not_mem_sign (negative : Prop) [Decidable negative]
    : '.' ∉ (if negative then "-" else "").toList := by
  split <;> simp

/-- A decimal with no negative exponent is written without a point. -/
theorem Decimal.places_of_nonneg {d : Decimal} (nonneg : 0 ≤ d.exponent) : d.places = 0 := by
  rw [places_eq]
  apply placesAfterPoint_of_free
  simp only [toString, if_pos nonneg, String.toList_append, String.toList_ofList,
    List.mem_append, not_or]
  exact ⟨point_not_mem_sign _, point_not_mem_toDigits _⟩

/-- Both ways of splitting the digits of a decimal with `p > 0` places give a whole part without
a point and, as the fraction, the last `p` digits of the coefficient: taken from its digits when
it has more than `p`, padded with zeros otherwise. -/
theorem Decimal.split_digits (n p : Nat) (pos : 0 < p)
    : ∃ whole fraction,
        (if (decimalDigits n).length > p then
          ((decimalDigits n).take ((decimalDigits n).length - p),
            (decimalDigits n).drop ((decimalDigits n).length - p))
        else (['0'], List.replicate (p - (decimalDigits n).length) '0' ++ decimalDigits n))
          = (whole, fraction)
        ∧ '.' ∉ whole ∧ fraction.reverse = lowDigits p n := by
  split
  · rename_i long
    have large : 10 ^ p ≤ n := by
      by_contra small
      have short : (Nat.toDigits 10 n).length ≤ p :=
        (Nat.length_toDigits_le_iff (by norm_num : 1 < 10) pos).mpr (not_le.mp small)
      simp only [decimalDigits] at long
      omega
    refine ⟨_, _, rfl, fun point => point_not_mem_toDigits n (List.mem_of_mem_take point), ?_⟩
    have digits : decimalDigits n = decimalDigits (n / 10 ^ p) ++ (lowDigits p n).reverse :=
      toDigits_split large
    rw [digits, List.length_append, List.length_reverse, length_lowDigits, Nat.add_sub_cancel,
      List.drop_left' rfl, List.reverse_reverse]
  · rename_i short
    have small : n < 10 ^ p :=
      (Nat.length_toDigits_le_iff (by norm_num) pos).mp (by simpa [decimalDigits] using short)
    refine ⟨_, _, rfl, by simp, ?_⟩
    rw [decimalDigits, pad_toDigits pos small, List.reverse_reverse]

/-- A decimal with `p > 0` places has as many places as the last `p` digits of its coefficient
keep once the zeros at their end are dropped. -/
theorem Decimal.places_of_neg {d : Decimal} (neg : d.exponent < 0)
    : d.places
      = ((lowDigits (-d.exponent).toNat d.coefficient.natAbs).dropWhile (· == '0')).length := by
  obtain ⟨whole, fraction, parts, wholeFree, fractionDigits⟩ :=
    split_digits d.coefficient.natAbs (-d.exponent).toNat (by omega)
  have signFree := point_not_mem_sign (d.coefficient < 0)
  rw [places_eq]
  simp only [toString, if_neg (not_le.mpr neg), parts, fractionDigits, String.toList_append,
    String.toList_ofList]
  generalize (if d.coefficient < 0 then "-" else "").toList = sign at signFree ⊢
  have prefixFree : '.' ∉ sign ++ whole := by
    simp only [List.mem_append, not_or]
    exact ⟨signFree, wholeFree⟩
  split
  · -- no digit is left after the point, and no point is written
    rename_i empty
    simp only [List.isEmpty_iff, List.reverse_eq_nil_iff] at empty
    rw [empty, placesAfterPoint_of_free prefixFree]
    rfl
  · rw [← List.append_assoc, placesAfterPoint_append prefixFree, List.length_reverse]

-----------------------------------------------------------------------------------------
-- The least power of ten that makes a decimal whole
-----------------------------------------------------------------------------------------

/-- An integer times a power of ten is whole exactly when the power is not negative or the
inverse power divides the integer. -/
theorem isInt_mul_zpow_iff (c j : ℤ)
    : (∃ z : ℤ, (c : ℚ) * 10 ^ j = z) ↔ 0 ≤ j ∨ 10 ^ (-j).toNat ∣ c.natAbs := by
  rcases le_or_gt 0 j with nonneg | neg
  · -- a whole power of ten
    refine iff_of_true ⟨c * 10 ^ j.toNat, ?_⟩ (.inl nonneg)
    conv_lhs => rw [← Int.toNat_of_nonneg nonneg, zpow_natCast]
    push_cast
    rfl
  · obtain ⟨m, rfl⟩ : ∃ m : ℕ, j = -(m : ℤ) := ⟨(-j).toNat, by omega⟩
    have power : (10 : ℚ) ^ (-(m : ℤ)) = ((10 ^ m : ℕ) : ℚ)⁻¹ := by
      rw [zpow_neg, zpow_natCast]
      push_cast
      rfl
    have positive : ((10 ^ m : ℕ) : ℚ) ≠ 0 := by positivity
    rw [power, neg_neg, Int.toNat_natCast, ← Int.natCast_dvd]
    simp only [Left.nonneg_neg_iff, Nat.cast_nonpos]
    constructor
    · rintro ⟨z, whole⟩
      refine .inr ⟨z, ?_⟩
      have scaled : (c : ℚ) = ((10 ^ m : ℕ) : ℚ) * z := by
        rw [← whole]
        field_simp
      exact_mod_cast scaled
    · rintro (zero | ⟨q, rfl⟩)
      · subst zero
        exact ⟨c, by simp⟩
      · exact ⟨q, by push_cast; field_simp⟩

/-- A decimal times `10^k` is whole exactly when `k` is at least its number of places: with a
negative exponent `-p` and `k < p`, exactly when `10^(p - k)` divides the coefficient, which is
when at most `k` of its last `p` digits remain once the zeros at their end are dropped. -/
theorem Decimal.isInt_mul_pow_iff (d : Decimal) (k : ℕ)
    : (∃ z : ℤ, d.value * 10 ^ k = z) ↔ d.places ≤ k := by
  have shift : d.value * 10 ^ k = d.coefficient * (10 : ℚ) ^ (d.exponent + k) := by
    rw [value, mul_assoc, zpow_add₀ (by norm_num), zpow_natCast]
  rw [shift, isInt_mul_zpow_iff]
  rcases le_or_gt 0 d.exponent with nonneg | neg
  · rw [places_of_nonneg nonneg]
    exact iff_of_true (.inl (by omega)) (Nat.zero_le k)
  · rw [places_of_neg neg]
    have short := List.length_dropWhile_le (· == '0')
      (lowDigits (-d.exponent).toNat d.coefficient.natAbs)
    rw [length_lowDigits] at short
    rcases le_or_gt (-d.exponent).toNat k with enough | few
    · -- at least `p` places are asked for: both sides hold
      exact iff_of_true (.inl (by omega)) (by omega)
    · have fraction : ¬ 0 ≤ d.exponent + k := by omega
      have missing : (-(d.exponent + k)).toNat = (-d.exponent).toNat - k := by omega
      rw [dropZeros_length_le_iff _ few.le, missing]
      simp only [fraction, false_or]

/-- The number of places of a decimal is the least `k` for which the decimal times `10^k` is
whole. -/
theorem Decimal.places_isLeast (d : Decimal)
    : IsLeast {k : ℕ | ∃ z : ℤ, d.value * 10 ^ k = z} d.places :=
  ⟨(isInt_mul_pow_iff d d.places).mpr le_rfl, fun _ whole => (isInt_mul_pow_iff d _).mp whole⟩

end Conform.Number

namespace Conform

open Number

-----------------------------------------------------------------------------------------
-- The rules that count places
-----------------------------------------------------------------------------------------

namespace Rule

theorem forDecimal_check_of {v : Value} {d : Decimal} (read : v.toDecimal? = some d)
    (name description : String) (test : Decimal → Bool)
    : (forDecimal name description test).check v = .ofBool (test d) := by
  simp only [forDecimal, ofTest, read]

/-- A rule on decimals fails every value that does not read as one. -/
theorem forDecimal_check_of_none {v : Value} (unread : v.toDecimal? = none)
    (name description : String) (test : Decimal → Bool)
    : (forDecimal name description test).check v = .ofBool false := by
  simp only [forDecimal, ofTest, unread]

/-- The rule for `N` places passes on a value read as a decimal exactly when `N` is not negative
and the decimal times `10^N` is whole. -/
theorem decimalPlaces_check {v : Value} {d : Decimal} (read : v.toDecimal? = some d) (N : Int)
    : (decimalPlaces N).check v = .pass ↔ 0 ≤ N ∧ ∃ z : ℤ, d.value * 10 ^ N = z := by
  rw [decimalPlaces, forDecimal_check_of read, Verdict.ofBool_eq_pass, decide_eq_true_iff]
  rcases le_or_gt 0 N with nonneg | neg
  · obtain ⟨m, rfl⟩ := Int.eq_ofNat_of_zero_le nonneg
    rw [zpow_natCast, Decimal.isInt_mul_pow_iff, Int.ofNat_le]
    exact (and_iff_right nonneg).symm
  · -- no count of places is negative
    exact iff_of_false (by omega) fun ⟨nonneg, _⟩ => by omega

/-- The currency rule passes on a finite float exactly when its shortest decimal times 100 is
whole. -/
theorem currency_check_float {x : Float} (finite : Value.isFiniteFloat x = true)
    : currency.check (.float x) = .pass ↔ ∃ z : ℤ, (Decimal.ofFloat x).value * 100 = z := by
  have anyFloat : NumberWidth.float64.holds x = true := rfl
  simp only [currency, forNumber, ofTest, Value.toFloat?, anyFloat, finite, Bool.true_and]
  rw [Verdict.ofBool_eq_pass, decide_eq_true_iff, show (100 : ℚ) = 10 ^ 2 by norm_num,
    Decimal.isInt_mul_pow_iff]

end Rule

/-- The places after the point of a decimal are the least `k` that makes it whole when
multiplied by `10^k`, for every coefficient and exponent. So the rule for `N` places passes on a
value read as a decimal exactly when `N` is not negative and the value times `10^N` is whole,
and the currency rule passes on a finite float exactly when its shortest decimal times 100 is
whole. By `Decimal.isInt_mul_pow_iff`, which reads the places off the last digits of the
coefficient.
-/
theorem places_least_whole_power (d : Decimal) (N : Int) (x : Float)
    : IsLeast {k : ℕ | ∃ z : ℤ, d.value * 10 ^ k = z} d.places
      ∧ (∀ v : Value, v.toDecimal? = some d →
          ((Rule.decimalPlaces N).check v = .pass ↔ 0 ≤ N ∧ ∃ z : ℤ, d.value * 10 ^ N = z))
      ∧ (Value.isFiniteFloat x = true →
          (Rule.currency.check (.float x) = .pass
            ↔ ∃ z : ℤ, (Decimal.ofFloat x).value * 100 = z)) :=
  ⟨Decimal.places_isLeast d, fun _ read => Rule.decimalPlaces_check read N,
    fun finite => Rule.currency_check_float finite⟩

/-- Witness: `19.12340000` read as a decimal, checked against four places, and the float `1`
against the currency rule. -/
theorem trailingZeros_decimal_four_places
    : Value.toDecimal? (.decimal ⟨1912340000, -8⟩) = some ⟨1912340000, -8⟩
      ∧ ((Rule.decimalPlaces 4).check (.decimal ⟨1912340000, -8⟩) = .pass
        ↔ 0 ≤ (4 : Int) ∧ ∃ z : ℤ, Decimal.value ⟨1912340000, -8⟩ * 10 ^ (4 : Int) = z)
      ∧ Value.isFiniteFloat (floatOfInt 1) = true
      ∧ (Rule.currency.check (.float (floatOfInt 1)) = .pass
        ↔ ∃ z : ℤ, (Decimal.ofFloat (floatOfInt 1)).value * 100 = z) :=
  have atInputs := places_least_whole_power ⟨1912340000, -8⟩ 4 (floatOfInt 1)
  ⟨rfl, atInputs.2.1 _ rfl, by decide, atInputs.2.2 (by decide)⟩

/-- Ten fails the rule for `-1` places, although ten times `10^-1` is whole. -/
theorem negativePlaces_fail_ten
    : (Value.number "10").toDecimal? = some ⟨10, 0⟩
      ∧ Decimal.value ⟨10, 0⟩ * 10 ^ (-1 : Int) = (1 : ℤ)
      ∧ (Rule.decimalPlaces (-1)).check (.number "10") = .fail :=
  ⟨by decide, by norm_num [Decimal.value], by decide⟩

end Conform
