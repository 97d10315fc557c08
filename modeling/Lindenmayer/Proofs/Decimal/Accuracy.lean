import Mathlib.Tactic.Linarith
import Lindenmayer.Proofs.Decimal.Rounding

/-!
# How far rounding leads

A number that is rounded to the nearest hundredth changes by half a hundredth at most,
however large or small it is. The fraction that is rounded is exact, so this is a matter of
whole numbers: quotient and remainder, and which of two neighbours is taken.
-/

namespace Lindenmayer.Decimal

/-- Rounding goes down if there is little left over, and up if there is much. -/
theorem nearestEven_cases (numerator denominator : Nat) :
    (nearestEven numerator denominator = numerator / denominator ∧
        2 * (numerator % denominator) ≤ denominator) ∨
      (nearestEven numerator denominator = numerator / denominator + 1 ∧
        denominator ≤ 2 * (numerator % denominator)) := by
  simp only [nearestEven]
  split_ifs <;> omega

/-- The nearest whole number is at most one half away on either side. -/
theorem two_mul_nearestEven_bounds {numerator denominator : Nat} (positive : 0 < denominator) :
    2 * (nearestEven numerator denominator * denominator) ≤ 2 * numerator + denominator ∧
      2 * numerator ≤ 2 * (nearestEven numerator denominator * denominator) + denominator := by
  have division := Nat.div_add_mod' numerator denominator
  have remainder := Nat.mod_lt numerator positive
  rcases nearestEven_cases numerator denominator with ⟨down, little⟩ | ⟨up, much⟩
  · rw [down]
    omega
  · simp only [up, Nat.add_mul, Nat.one_mul]
    omega

theorem abs_nearestEven_sub_le (numerator : Nat) {denominator : Nat}
    (positive : 0 < denominator) :
    |(nearestEven numerator denominator : ℚ) - numerator / denominator| ≤ 1 / 2 := by
  have above : 2 * ((nearestEven numerator denominator : ℚ) * denominator) ≤
      2 * numerator + denominator := by exact_mod_cast (two_mul_nearestEven_bounds positive).1
  have below : 2 * (numerator : ℚ) ≤
      2 * ((nearestEven numerator denominator : ℚ) * denominator) + denominator := by
    exact_mod_cast (two_mul_nearestEven_bounds positive).2
  have someDenominator : (0 : ℚ) < denominator := Nat.cast_pos.mpr positive
  rw [abs_sub_le_iff, sub_le_iff_le_add, sub_le_iff_le_add, ← sub_le_iff_le_add',
    div_le_iff₀ someDenominator, le_div_iff₀ someDenominator]
  constructor <;> linarith

section Hundredths

variable (negative : Bool) (significand : Nat) (exponent : Int)

theorem abs_hundredths_sub_le :
    |(hundredths significand exponent : ℚ) - 100 * (significand * 2 ^ exponent)| ≤ 1 / 2 := by
  have rounded := abs_nearestEven_sub_le (100 * (binaryFraction significand exponent).1)
    (binaryFraction_snd_pos significand exponent)
  rw [← binaryFraction_fst_div_snd, ← mul_div_assoc]
  exact_mod_cast rounded

/-- The sign is that of the number itself, and rounding does not change it. -/
theorem abs_signed_hundredths_sub_le :
    |(signedNumerator negative (hundredths significand exponent) : ℚ) -
        100 * (Binary64.finite negative significand exponent).value| ≤ 1 / 2 := by
  have rounded := abs_hundredths_sub_le significand exponent
  cases negative with
  | false => simpa [Binary64.value, signedNumerator] using rounded
  | true =>
      rw [abs_sub_comm] at rounded
      refine Eq.trans_le (congrArg abs ?_) rounded
      simp only [Binary64.value, signedNumerator, if_true, Int.cast_neg, Int.cast_natCast]
      ring

end Hundredths

/-- A finite number is printed within half a hundredth. -/
theorem abs_hundredthsOf_div_sub_value_le {number : Float} (finite : number.isFinite) :
    |(hundredthsOf (.ofFloat number) : ℚ) / 100 - (Binary64.ofFloat number).value| ≤ 1 / 200 := by
  rcases Binary64.exists_ofFloat_eq_finite finite with ⟨negative, significand, exponent, decoded⟩
  have rounded := abs_signed_hundredths_sub_le negative significand exponent
  rw [decoded, hundredthsOf]
  rw [abs_sub_le_iff] at rounded ⊢
  constructor <;> linarith

end Lindenmayer.Decimal
