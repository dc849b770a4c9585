import Mathlib
import Conform.Proofs.WidthChecks
import Conform.Rule.Catalogue
/-! A number rule judges a whole number of magnitude at most `2^53` exactly, since its float is
exact; past it the float rounds and the rule judges a neighbour.
-/

namespace Conform

open Number

/-- A whole-number width holds a whole float exactly when its integer is in the width's range. -/
theorem NumberWidth.holds_of_exact {width : NumberWidth} {lo hi : Int}
    (whole : width.range? = some (lo, hi)) {x : Float} {n : Int}
    (exact : (valueOf x).toInt? = some n) : width.holds x = decide (lo ≤ n ∧ n ≤ hi) := by
  rw [Bool.eq_iff_iff, decide_eq_true_iff, NumberWidth.holds,
    NumberWidth.representableWith_iff (NumberWidth.convert_conversion width) x,
    NumberWidth.forall_range_iff whole]
  constructor
  · rintro ⟨n', exact', low, high⟩
    obtain rfl : n' = n := Option.some.inj (exact'.symm.trans exact)
    exact ⟨low, high⟩
  · rintro ⟨low, high⟩
    exact ⟨n, exact, low, high⟩

/-- A number rule with a whole-number width judges every machine integer of magnitude at most
`2^53` exactly: the float its test sees is the integer itself, and the rule holds when the
integer is in the width's range and the test holds. -/
theorem forNumber_exact_of_small (name description : String) {width : NumberWidth} {lo hi : Int}
    (whole : width.range? = some (lo, hi)) (test : Float → Bool) (n : Int)
    (small : n.natAbs ≤ 2 ^ 53)
    : (valueOf (floatOfInt n)).toInt? = some n
      ∧ (Rule.forNumber name description width test).check (.int n)
        = .ofBool (decide (lo ≤ n ∧ n ≤ hi) && test (floatOfInt n))
      ∧ (0 ≤ n → (Rule.forNumber name description width test).check (.uint n.toNat)
        = .ofBool (decide (lo ≤ n ∧ n ≤ hi) && test (floatOfInt n))) := by
  have exact := floatOfInt_exact small
  refine ⟨exact, ?_, fun nonneg => ?_⟩
  · simp only [Rule.forNumber, Rule.ofTest, Value.toFloat?, NumberWidth.holds_of_exact whole exact]
  · have same : ((n.toNat : Nat) : Int) = n := Int.toNat_of_nonneg nonneg
    simp only [Rule.forNumber, Rule.ofTest, Value.toFloat?, same,
      NumberWidth.holds_of_exact whole exact]

theorem uint64_holds_at_two_pow_53
    : (Rule.forNumber "uint64" "Must fit in uint64" .uint64 fun _ => true).check (.int (2 ^ 53))
      = .pass := by
  rw [(forNumber_exact_of_small "uint64" "Must fit in uint64" rfl (fun _ => true) (2 ^ 53)
    (by decide)).2.1]
  decide

/-- The largest `uint64`, written as a JSON number, is refused by the `uint64` rule: it rounds
up to `2^64`. -/
theorem uint64_rejects_largest
    : (Rule.forNumber "uint64" "Must fit in uint64" .uint64 fun _ => true).check
        (.number "18446744073709551615") = .fail := by
  decide

/-- The odd `2^53 + 1` rounds down to an even float and passes the rule for even numbers. -/
theorem even_accepts_odd
    : (Rule.forNumber "even" "Must be even" .int64 Rule.isEven).check (.int 9007199254740993)
      = .pass := by
  decide

end Conform
