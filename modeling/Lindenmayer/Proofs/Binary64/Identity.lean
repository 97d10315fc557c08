import Lindenmayer.Proofs.Binary64.Order

/-!
# Which numbers are the same

Two numbers neither of which is below the other are one number, bit for bit, or they are zeros,
of which there are two. For numbers on one side of zero this is because only one way of writing
a value with a significand and an exponent is normal; between numbers of different kinds there
is always a difference in what they amount to.
-/

namespace Lindenmayer.Binary64

open Float.Model (UnpackedFloat)
open Float.Model.UnpackedFloat (pack_unpack_of_valid)

theorem eq_of_units_eq {leftSignificand rightSignificand : Nat} {leftExponent rightExponent : Int}
    (leftNormal : (finite false leftSignificand leftExponent).IsNormal)
    (rightNormal : (finite false rightSignificand rightExponent).IsNormal)
    (same : leftSignificand * 2 ^ (leftExponent - leastExponent).toNat =
      rightSignificand * 2 ^ (rightExponent - leastExponent).toNat) :
    leftSignificand = rightSignificand ∧ leftExponent = rightExponent := by
  have comparison := compare_exponent_then_significand leftNormal rightNormal
  rw [same, compare_eq_iff_eq.mpr rfl, Ordering.then_eq_eq, compare_eq_iff_eq, compare_eq_iff_eq]
    at comparison
  exact comparison.symm

theorem AmountsTo.eq_or_zero {left right : UnpackedFloat} {leftUnits rightUnits : Int}
    (leftAmount : AmountsTo left leftUnits) (rightAmount : AmountsTo right rightUnits)
    (same : leftUnits = rightUnits) :
    left = right ∨ (∃ sign, left = .zero sign) ∧ ∃ sign, right = .zero sign := by
  have farAway : 0 < unitsOfInfinity := Nat.two_pow_pos _
  -- Numbers of different kinds differ in units, and on one side of zero the form is unique.
  cases leftAmount with
  | infinitelyLarge =>
      cases rightAmount with
      | infinitelyLarge => exact .inl rfl
      | _ => omega
  | positive _ leftNormal leftCounted =>
      cases rightAmount with
      | positive _ rightNormal rightCounted =>
          subst leftCounted rightCounted
          rcases eq_of_units_eq leftNormal rightNormal (Int.ofNat_inj.mp same) with ⟨rfl, rfl⟩
          exact .inl rfl
      | _ => omega
  | zero leftSign =>
      cases rightAmount with
      | zero rightSign => exact .inr ⟨⟨leftSign, rfl⟩, rightSign, rfl⟩
      | _ => omega
  | negative _ leftNormal leftCounted =>
      cases rightAmount with
      | negative _ rightNormal rightCounted =>
          subst leftCounted rightCounted
          have sameUnits := Int.ofNat_inj.mp (neg_injective same)
          rcases eq_of_units_eq leftNormal rightNormal sameUnits with ⟨rfl, rfl⟩
          exact .inl rfl
      | _ => omega
  | infinitelySmall =>
      cases rightAmount with
      | infinitelySmall => exact .inl rfl
      | _ => omega

theorem eq_of_unpack_eq {left right : Float} (same : left.toModel.unpack = right.toModel.unpack) :
    left = right := by
  have leftPacked := pack_unpack_of_valid left.toModel.valid
  have rightPacked := pack_unpack_of_valid right.toModel.valid
  apply Float.toBits_inj.mp
  apply UInt64.toBitVec_inj.mp
  exact leftPacked.symm.trans ((congrArg _ same).trans rightPacked)

theorem eq_zero_of_unpack_eq_zero {number : Float} {sign : UnpackedFloat.Sign}
    (zero : number.toModel.unpack = .zero sign) : number = 0.0 ∨ number = -0.0 := by
  cases sign with
  | positive => exact .inl (eq_of_unpack_eq zero)
  | negative => exact .inr (eq_of_unpack_eq zero)

/-- Comparison is antisymmetric up to the sign of zeros. -/
theorem eq_or_zeros_of_le_of_le {left right : Float} (below : left ≤ right)
    (above : right ≤ left) :
    left = right ∨ (left = 0.0 ∨ left = -0.0) ∧ (right = 0.0 ∨ right = -0.0) := by
  rcases isNaN_eq_false_of_le below with ⟨leftNumeric, rightNumeric⟩
  rw [le_iff_leastUnits_le leftNumeric rightNumeric] at below
  rw [le_iff_leastUnits_le rightNumeric leftNumeric] at above
  have sameUnits := le_antisymm below above
  rcases (amountsTo_unpack leftNumeric).eq_or_zero (amountsTo_unpack rightNumeric) sameUnits with
    same | ⟨⟨_, leftZero⟩, _, rightZero⟩
  · left
    exact eq_of_unpack_eq same
  · right
    exact ⟨eq_zero_of_unpack_eq_zero leftZero, eq_zero_of_unpack_eq_zero rightZero⟩

end Lindenmayer.Binary64
