import Mathlib.Algebra.Order.Field.Power
import Mathlib.Data.Rat.Defs
import Mathlib.Tactic.FieldSimp
import Lindenmayer.Proofs.Binary64.Order

/-!
# The value of a floating-point number

A finite number stands for a rational one, its significand times a power of two.
Finite numbers are in the order of the rationals that they stand for.
-/

namespace Lindenmayer.Binary64

/-- The rational that a finite number stands for. -/
def value : Binary64 → ℚ
  | .finite negative significand exponent =>
    (Decimal.signedNumerator negative significand : ℚ) * 2 ^ exponent
  | _ => 0

/-- The value is counted in least positive numbers. -/
theorem value_mul_eq_leastUnits {number : Binary64} (normal : number.IsNormal)
    (finite : number.isFinite) : number.value * 2 ^ (-leastExponent) = number.leastUnits := by
  cases number with
  | nan => simp [isFinite] at finite
  | infinite negative => simp [isFinite] at finite
  | finite negative significand exponent =>
      have least : 0 ≤ exponent - leastExponent := Int.sub_nonneg_of_le normal.2.1
      have raised : (2 : ℚ) ^ exponent * 2 ^ (-leastExponent) =
          2 ^ (exponent - leastExponent).toNat := by
        rw [← zpow_add₀ two_ne_zero, ← zpow_natCast, Int.toNat_of_nonneg least, Int.sub_eq_add_neg]
      rw [value, mul_assoc, raised]
      cases negative <;> simp [leastUnits, Decimal.signedNumerator]

theorem le_iff_value_le {left right : Float} (leftFinite : left.isFinite)
    (rightFinite : right.isFinite) :
    left ≤ right ↔ (ofFloat left).value ≤ (ofFloat right).value := by
  have positive : (0 : ℚ) < 2 ^ (-leastExponent) := zpow_pos (by decide) _
  rw [le_iff_leastUnits_le (isNaN_eq_false_of_isFinite leftFinite)
      (isNaN_eq_false_of_isFinite rightFinite), ← mul_le_mul_iff_left₀ positive,
    value_mul_eq_leastUnits (isNormal_ofFloat left) (isFinite_ofFloat left ▸ leftFinite),
    value_mul_eq_leastUnits (isNormal_ofFloat right) (isFinite_ofFloat right ▸ rightFinite),
    Int.cast_le]

end Lindenmayer.Binary64
