import Mathlib.Data.Rat.Floor
import Lindenmayer.Decimal.Reading
import Lindenmayer.Proofs.Binary64.Value

/-!
# Rounding to hundredths and to whole numbers

Coordinates are rounded to the nearest hundredth, the sides of a box outwards to the
next whole number. The first rounding may carry a coordinate past a side of the box,
but never past a whole number, since whole numbers are hundredths themselves. This
is why the two kinds of rounding go together.
-/

namespace Lindenmayer.Decimal

section Fraction

variable (significand : Nat) (exponent : Int)

theorem binaryFraction_snd_pos : 0 < (binaryFraction significand exponent).2 := by
  unfold binaryFraction
  split
  · exact Nat.one_pos
  · exact Nat.two_pow_pos _

theorem binaryFraction_fst_div_snd :
    ((binaryFraction significand exponent).1 : ℚ) / (binaryFraction significand exponent).2 =
      significand * 2 ^ exponent := by
  unfold binaryFraction
  split
  · rename_i whole
    have power : (2 : ℚ) ^ exponent = 2 ^ exponent.toNat := by
      rw [← zpow_natCast, Int.toNat_of_nonneg whole]
    simp [power]
  · rename_i fractional
    have power : (2 : ℚ) ^ exponent = (2 ^ (-exponent).toNat)⁻¹ := by
      rw [← zpow_natCast, Int.toNat_of_nonneg (by omega), zpow_neg, inv_inv]
    simp [power, div_eq_mul_inv]

end Fraction

section Whole

variable (negative : Bool) (significand : Nat) (exponent : Int)

theorem value_not_finite :
    (Binary64.finite (!negative) significand exponent).value =
      -(Binary64.finite negative significand exponent).value := by
  cases negative <;> simp [Binary64.value, signedNumerator]

theorem floorOf_eq_floor :
    floorOf negative significand exponent =
      ⌊(Binary64.finite negative significand exponent).value⌋ := by
  have quotient : (Binary64.finite negative significand exponent).value =
      (signedNumerator negative (binaryFraction significand exponent).1 : ℚ) /
        (binaryFraction significand exponent).2 := by
    have fraction := binaryFraction_fst_div_snd significand exponent
    cases negative <;> simp [Binary64.value, signedNumerator, ← fraction, neg_div]
  rw [quotient, Rat.floor_intCast_div_natCast]
  exact Int.fdiv_eq_ediv_of_nonneg _ (Int.natCast_nonneg _)

theorem ceilingOf_eq_ceil :
    ceilingOf negative significand exponent =
      ⌈(Binary64.finite negative significand exponent).value⌉ := by
  rw [ceilingOf, floorOf_eq_floor, value_not_finite, Int.floor_neg, neg_neg]

end Whole

section Hundredths

theorem le_nearestEven {bound numerator denominator : Nat} (positive : 0 < denominator)
    (below : bound * denominator ≤ numerator) : bound ≤ nearestEven numerator denominator := by
  have floor : bound ≤ numerator / denominator := (Nat.le_div_iff_mul_le positive).mpr below
  simp only [nearestEven]
  split_ifs <;> omega

theorem nearestEven_le {bound numerator denominator : Nat} (positive : 0 < denominator)
    (above : numerator ≤ bound * denominator) : nearestEven numerator denominator ≤ bound := by
  have floor : numerator / denominator ≤ bound := Nat.div_le_of_le_mul (Nat.mul_comm _ _ ▸ above)
  have division := Nat.div_add_mod' numerator denominator
  -- Only a number that is not whole is ever rounded upwards.
  have raised : 0 < numerator % denominator → numerator / denominator + 1 ≤ bound := by
    intro someRemainder
    apply Nat.succ_le_of_lt
    apply Nat.lt_of_mul_lt_mul_right (a := denominator)
    omega
  simp only [nearestEven]
  split_ifs <;> omega

variable {significand : Nat} {exponent : Int} {bound : Nat}

theorem le_hundredths (below : (bound : ℚ) ≤ significand * 2 ^ exponent) :
    100 * bound ≤ hundredths significand exponent := by
  have positive := binaryFraction_snd_pos significand exponent
  rw [← binaryFraction_fst_div_snd, le_div_iff₀ (Nat.cast_pos.mpr positive)] at below
  have below : bound * (binaryFraction significand exponent).2 ≤
      (binaryFraction significand exponent).1 := by exact_mod_cast below
  apply le_nearestEven positive
  rw [Nat.mul_assoc]
  exact Nat.mul_le_mul_left 100 below

theorem hundredths_le (above : (significand : ℚ) * 2 ^ exponent ≤ bound) :
    hundredths significand exponent ≤ 100 * bound := by
  have positive := binaryFraction_snd_pos significand exponent
  rw [← binaryFraction_fst_div_snd, div_le_iff₀ (Nat.cast_pos.mpr positive)] at above
  have above : (binaryFraction significand exponent).1 ≤
      bound * (binaryFraction significand exponent).2 := by exact_mod_cast above
  apply nearestEven_le positive
  rw [Nat.mul_assoc]
  exact Nat.mul_le_mul_left 100 above

end Hundredths

section Signed

variable {negative : Bool} {significand : Nat} {exponent whole : Int}

/-- Rounding to hundredths does not lead below a whole number, … -/
theorem le_signed_hundredths
    (below : (whole : ℚ) ≤ (Binary64.finite negative significand exponent).value) :
    100 * whole ≤ signedNumerator negative (hundredths significand exponent) := by
  cases negative with
  | false =>
      simp only [Binary64.value, signedNumerator, Bool.false_eq_true, if_false,
        Int.cast_natCast] at below ⊢
      by_cases positive : 0 ≤ whole
      · rcases Int.eq_ofNat_of_zero_le positive with ⟨bound, rfl⟩
        have enough := le_hundredths (by exact_mod_cast below)
        omega
      · omega
  | true =>
      simp only [Binary64.value, signedNumerator, if_true, Int.cast_neg, Int.cast_natCast,
        neg_mul] at below ⊢
      have someMagnitude : (0 : ℚ) ≤ significand * 2 ^ exponent := by positivity
      have notPositive : (whole : ℚ) ≤ 0 := by linarith
      have notPositive : whole ≤ 0 := by exact_mod_cast notPositive
      rcases Int.eq_ofNat_of_zero_le (Int.neg_nonneg_of_nonpos notPositive) with ⟨bound, opposite⟩
      have cast : -(whole : ℚ) = bound := by exact_mod_cast opposite
      have enough : hundredths significand exponent ≤ 100 * bound := hundredths_le (by linarith)
      omega

/-- … nor above one. -/
theorem signed_hundredths_le
    (above : (Binary64.finite negative significand exponent).value ≤ whole) :
    signedNumerator negative (hundredths significand exponent) ≤ 100 * whole := by
  have opposite : ((-whole : Int) : ℚ) ≤
      (Binary64.finite (!negative) significand exponent).value := by
    rw [value_not_finite]
    push_cast
    exact neg_le_neg above
  have mirrored := le_signed_hundredths opposite
  cases negative <;> simp only [signedNumerator, Bool.not_true, Bool.not_false, Bool.false_eq_true,
    if_true, if_false] at mirrored ⊢ <;> omega

end Signed

section Numbers

variable {side number : Float}

theorem clampWhole_of_inRange {value : Int} (inRange : InRange value) :
    clampWhole value = value := by
  rcases inRange with ⟨least, greatest⟩
  simp only [clampWhole]
  omega

theorem floor_eq_floor (finite : side.isFinite)
    (inRange : InRange ⌊(Binary64.ofFloat side).value⌋) :
    floor side = ⌊(Binary64.ofFloat side).value⌋ := by
  rcases Binary64.exists_ofFloat_eq_finite finite with ⟨negative, significand, exponent, decoded⟩
  rw [floor]
  rw [decoded] at inRange ⊢
  rw [wholeOf, floorOf_eq_floor, clampWhole_of_inRange inRange]

theorem ceiling_eq_ceil (finite : side.isFinite)
    (inRange : InRange ⌈(Binary64.ofFloat side).value⌉) :
    ceiling side = ⌈(Binary64.ofFloat side).value⌉ := by
  rcases Binary64.exists_ofFloat_eq_finite finite with ⟨negative, significand, exponent, decoded⟩
  rw [ceiling]
  rw [decoded] at inRange ⊢
  rw [wholeOf, ceilingOf_eq_ceil, clampWhole_of_inRange inRange]

/-- A number is not printed below the whole number that is declared for a lesser one, … -/
theorem floor_le_hundredthsOf (sideFinite : side.isFinite) (numberFinite : number.isFinite)
    (inRange : InRange ⌊(Binary64.ofFloat side).value⌋) (order : side ≤ number) :
    100 * floor side ≤ hundredthsOf (.ofFloat number) := by
  have below : (⌊(Binary64.ofFloat side).value⌋ : ℚ) ≤ (Binary64.ofFloat number).value :=
    calc (⌊(Binary64.ofFloat side).value⌋ : ℚ)
        ≤ (Binary64.ofFloat side).value := Int.floor_le _
      _ ≤ (Binary64.ofFloat number).value :=
          (Binary64.le_iff_value_le sideFinite numberFinite).mp order
  rw [floor_eq_floor sideFinite inRange]
  rcases Binary64.exists_ofFloat_eq_finite numberFinite with
    ⟨negative, significand, exponent, decoded⟩
  rw [decoded] at below ⊢
  exact le_signed_hundredths below

/-- … nor above the one declared for a greater one. -/
theorem hundredthsOf_le_ceiling (sideFinite : side.isFinite) (numberFinite : number.isFinite)
    (inRange : InRange ⌈(Binary64.ofFloat side).value⌉) (order : number ≤ side) :
    hundredthsOf (.ofFloat number) ≤ 100 * ceiling side := by
  have above : (Binary64.ofFloat number).value ≤ (⌈(Binary64.ofFloat side).value⌉ : ℚ) :=
    calc (Binary64.ofFloat number).value
        ≤ (Binary64.ofFloat side).value :=
          (Binary64.le_iff_value_le numberFinite sideFinite).mp order
      _ ≤ (⌈(Binary64.ofFloat side).value⌉ : ℚ) := Int.le_ceil _
  rw [ceiling_eq_ceil sideFinite inRange]
  rcases Binary64.exists_ofFloat_eq_finite numberFinite with
    ⟨negative, significand, exponent, decoded⟩
  rw [decoded] at above ⊢
  exact signed_hundredths_le above

end Numbers

end Lindenmayer.Decimal
