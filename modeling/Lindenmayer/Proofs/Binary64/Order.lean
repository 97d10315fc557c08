import Mathlib
import Lindenmayer.Binary64
import Lindenmayer.Decimal.Whole

/-!
# The order of floating-point numbers

Floating-point numbers are compared by sign, then by exponent, then by
significand. Here this is shown to be the order of the values that they stand for,
with the infinities at the two ends.

Every finite number is a whole multiple of the least positive one, `2 ^ -1074`, so
the order can be carried over to the integers: `Binary64.leastUnits` is that
multiple, and an infinity counts as more than any finite number has. What a NaN
counts as is of no importance, since every comparison with one fails.
-/

namespace Lindenmayer.Binary64

open Float.Model (UnpackedFloat)
open Float.Model.UnpackedFloat (unpackExponent unpackMantissa unpackSign)

def isNumeric : Binary64 → Bool
  | .nan => false
  | _ => true

def isFinite : Binary64 → Bool
  | .finite .. => true
  | _ => false

/-- What `2 ^ 1024` would amount to, which no finite number reaches. -/
def unitsOfInfinity : Nat := 2 ^ (1024 - leastExponent).toNat

/-- How many least positive numbers a number amounts to. -/
def leastUnits : Binary64 → Int
  | .nan => 0
  | .infinite negative => Decimal.signedNumerator negative unitsOfInfinity
  | .finite negative significand exponent =>
    Decimal.signedNumerator negative (significand * 2 ^ (exponent - leastExponent).toNat)

/--
Whether a number has the form that decoding gives it: the significand is below
`2 ^ 53`, and not below `2 ^ 52` unless the exponent is the least one.
-/
def IsNormal : Binary64 → Prop
  | .finite _ significand exponent =>
    significand < 2 ^ 53 ∧ leastExponent ≤ exponent ∧ exponent ≤ 971 ∧
      (2 ^ 52 ≤ significand ∨ exponent = leastExponent)
  | _ => True

section Decoding

def isNegative (number : Float) : Bool :=
  number.toBits.toNat ≥ 2 ^ 63

def exponentField (number : Float) : Nat :=
  number.toBits.toNat / 2 ^ fractionBits % 2 ^ 11

def fractionField (number : Float) : Nat :=
  number.toBits.toNat % 2 ^ fractionBits

theorem exponentField_lt (number : Float) : exponentField number < 2 ^ 11 :=
  Nat.mod_lt _ (by decide)

theorem fractionField_lt (number : Float) : fractionField number < 2 ^ 52 :=
  Nat.mod_lt _ (by decide)

theorem ofFloat_eq (number : Float) :
    ofFloat number =
      if exponentField number = 2 ^ 11 - 1 then
        if fractionField number = 0 then .infinite (isNegative number) else .nan
      else if exponentField number = 0 then
        .finite (isNegative number) (fractionField number) leastExponent
      else
        .finite (isNegative number) (2 ^ fractionBits + fractionField number)
          (leastExponent + ((exponentField number - 1 : Nat) : Int)) :=
  rfl

theorem isNormal_ofFloat (number : Float) : (ofFloat number).IsNormal := by
  have exponentBound := exponentField_lt number
  have fractionBound := fractionField_lt number
  rw [ofFloat_eq]
  split_ifs
  · trivial
  · trivial
  · exact ⟨by omega, le_refl _, by decide, .inr rfl⟩
  · simp only [IsNormal, leastExponent, fractionBits]
    omega

def signOf (negative : Bool) : UnpackedFloat.Sign :=
  if negative then .negative else .positive

/-- A number in the form through which comparison is defined; it keeps zeros apart. -/
def unpacked : Binary64 → UnpackedFloat
  | .nan => .notANumber
  | .infinite negative => .infinity (signOf negative)
  | .finite negative significand exponent =>
    if positive : 0 < significand then .finite (signOf negative) significand exponent positive
    else .zero (signOf negative)

/-- The bits of a number, as unpacking wants them. -/
abbrev bitsOf (number : Float) : BitVec Float.Model.Format.binary64.numBits :=
  number.toBits.toBitVec

theorem toNat_unpackExponent (number : Float) :
    (unpackExponent (bitsOf number)).toNat = exponentField number := by
  simp [unpackExponent, Nat.shiftRight_eq_div_pow, exponentField, fractionBits]

theorem toNat_unpackMantissa (number : Float) :
    (unpackMantissa (bitsOf number)).toNat = fractionField number := by
  simp [unpackMantissa, fractionField, fractionBits]

theorem ofBitVec_unpackSign (number : Float) :
    UnpackedFloat.Sign.ofBitVec (unpackSign (bitsOf number)) = signOf (isNegative number) := by
  have bound : number.toBits.toNat < 2 ^ 64 := number.toBits.toBitVec.isLt
  have sign : (unpackSign (bitsOf number)).toNat = number.toBits.toNat / 2 ^ 63 % 2 := by
    simp [unpackSign, Nat.shiftRight_eq_div_pow]
  have isZero : unpackSign (bitsOf number) = 0#1 ↔ ¬ number.toBits.toNat ≥ 2 ^ 63 := by
    rw [← BitVec.toNat_inj, sign]
    simp only [BitVec.toNat_ofNat]
    omega
  simp only [UnpackedFloat.Sign.ofBitVec, signOf, isNegative, isZero, decide_eq_true_eq, ite_not]

theorem toNat_one_append {width : Nat} (fraction : BitVec width) :
    (1#1 ++ fraction).toNat = 2 ^ width + fraction.toNat := by
  rw [BitVec.toNat_append, ← Nat.shiftLeft_add_eq_or_of_lt fraction.isLt]
  simp [Nat.shiftLeft_eq]

/-- Decoding agrees with the unpacking through which comparison is defined. -/
theorem unpacked_ofFloat (number : Float) :
    (ofFloat number).unpacked = number.toModel.unpack := by
  -- Unpacking compares the fields as bit vectors, decoding as numbers.
  have isSpecial : unpackExponent (bitsOf number) = -1#11 ↔ exponentField number = 2 ^ 11 - 1 := by
    rw [← toNat_unpackExponent, ← BitVec.toNat_inj]
    rfl
  have isSubnormal : unpackExponent (bitsOf number) = 0#11 ↔ exponentField number = 0 := by
    rw [← toNat_unpackExponent, ← BitVec.toNat_inj]
    rfl
  have isZero : unpackMantissa (bitsOf number) = 0#52 ↔ fractionField number = 0 := by
    rw [← toNat_unpackMantissa, ← BitVec.toNat_inj]
    rfl
  have bias : ((Float.Model.Format.binary64.exponentBias : Nat) : Int) = 1023 := rfl
  change _ = UnpackedFloat.unpack _ (bitsOf number)
  rw [ofFloat_eq]
  simp only [UnpackedFloat.unpack, isSpecial, isSubnormal, isZero, ofBitVec_unpackSign,
    toNat_unpackExponent, toNat_unpackMantissa, toNat_one_append, bias]
  split_ifs with special zero subnormal zero
  · rfl
  · rfl
  · simp [unpacked, zero]
  · have positive : 0 < fractionField number := by omega
    simp [unpacked, positive, subnormal, leastExponent]
  · have positive : 0 < 2 ^ fractionBits + fractionField number := by
      simp only [fractionBits]
      omega
    have exponent : leastExponent + ((exponentField number - 1 : Nat) : Int) =
        exponentField number - (1023 + 52) := by
      simp only [leastExponent]
      omega
    simp only [unpacked, positive, dite_true, exponent]
    rfl

end Decoding

section Comparison

/-- A smaller exponent is not made up for by the significand. -/
theorem units_lt_of_exponent_lt {leftSignificand rightSignificand : Nat}
    {leftExponent rightExponent : Int}
    (leftNormal : (finite false leftSignificand leftExponent).IsNormal)
    (rightNormal : (finite false rightSignificand rightExponent).IsNormal)
    (smaller : leftExponent < rightExponent) :
    leftSignificand * 2 ^ (leftExponent - leastExponent).toNat <
      rightSignificand * 2 ^ (rightExponent - leastExponent).toNat := by
  rcases leftNormal with ⟨leftBound, leftLeast, _, _⟩
  rcases rightNormal with ⟨_, _, _, rightLarge⟩
  have large : 2 ^ 52 ≤ rightSignificand := by omega
  have raised :
      (leftExponent - leastExponent).toNat + 1 ≤ (rightExponent - leastExponent).toNat := by
    omega
  calc leftSignificand * 2 ^ (leftExponent - leastExponent).toNat
      < 2 ^ 53 * 2 ^ (leftExponent - leastExponent).toNat :=
        Nat.mul_lt_mul_of_pos_right leftBound (Nat.two_pow_pos _)
    _ = 2 ^ 52 * 2 ^ ((leftExponent - leastExponent).toNat + 1) := by ring
    _ ≤ 2 ^ 52 * 2 ^ (rightExponent - leastExponent).toNat :=
        Nat.mul_le_mul_left _ (Nat.pow_le_pow_right (by decide) raised)
    _ ≤ rightSignificand * 2 ^ (rightExponent - leastExponent).toNat :=
        Nat.mul_le_mul_right _ large

/-- Comparing exponents first and significands second is comparing values. -/
theorem compare_exponent_then_significand {leftSignificand rightSignificand : Nat}
    {leftExponent rightExponent : Int}
    (leftNormal : (finite false leftSignificand leftExponent).IsNormal)
    (rightNormal : (finite false rightSignificand rightExponent).IsNormal) :
    (compare leftExponent rightExponent).then (compare leftSignificand rightSignificand) =
      compare ((leftSignificand * 2 ^ (leftExponent - leastExponent).toNat : Nat) : Int)
        (rightSignificand * 2 ^ (rightExponent - leastExponent).toNat : Nat) := by
  rcases lt_trichotomy leftExponent rightExponent with smaller | rfl | greater
  · have unitsSmaller := units_lt_of_exponent_lt leftNormal rightNormal smaller
    rw [compare_lt_iff_lt.mpr smaller, compare_lt_iff_lt.mpr (Int.ofNat_lt.mpr unitsSmaller)]
    rfl
  · have positive := Nat.two_pow_pos (leftExponent - leastExponent).toNat
    rcases lt_trichotomy leftSignificand rightSignificand with smaller | rfl | greater
    · have unitsSmaller := Nat.mul_lt_mul_of_pos_right smaller positive
      rw [compare_lt_iff_lt.mpr smaller, compare_lt_iff_lt.mpr (Int.ofNat_lt.mpr unitsSmaller)]
      simp
    · simp
    · have unitsGreater := Nat.mul_lt_mul_of_pos_right greater positive
      rw [compare_gt_iff_gt.mpr greater, compare_gt_iff_gt.mpr (Int.ofNat_lt.mpr unitsGreater)]
      simp
  · have unitsGreater := units_lt_of_exponent_lt rightNormal leftNormal greater
    rw [compare_gt_iff_gt.mpr greater, compare_gt_iff_gt.mpr (Int.ofNat_lt.mpr unitsGreater)]
    rfl

/-- Finite numbers amount to less than an infinity counts as. -/
theorem units_lt_unitsOfInfinity {significand : Nat} {exponent : Int}
    (normal : (finite false significand exponent).IsNormal) :
    significand * 2 ^ (exponent - leastExponent).toNat < unitsOfInfinity := by
  rcases normal with ⟨bound, _, greatest, _⟩
  have raised : 53 + (exponent - leastExponent).toNat ≤ (1024 - leastExponent).toNat := by
    simp only [leastExponent]
    omega
  calc significand * 2 ^ (exponent - leastExponent).toNat
      < 2 ^ 53 * 2 ^ (exponent - leastExponent).toNat :=
        Nat.mul_lt_mul_of_pos_right bound (Nat.two_pow_pos _)
    _ = 2 ^ (53 + (exponent - leastExponent).toNat) := (Nat.pow_add 2 53 _).symm
    _ ≤ unitsOfInfinity := Nat.pow_le_pow_right (by decide) raised

/-- What an unpacked number amounts to, from the greatest to the least. -/
inductive AmountsTo : UnpackedFloat → Int → Prop
  | infinitelyLarge : AmountsTo (.infinity .positive) unitsOfInfinity
  | positive {significand units : Nat} {exponent : Int} (someSignificand : 0 < significand)
      (normal : (finite false significand exponent).IsNormal)
      (counted : units = significand * 2 ^ (exponent - leastExponent).toNat)
      (someUnits : 0 < units) (below : units < unitsOfInfinity) :
      AmountsTo (.finite .positive significand exponent someSignificand) units
  | zero (sign : UnpackedFloat.Sign) : AmountsTo (.zero sign) 0
  | negative {significand units : Nat} {exponent : Int} (someSignificand : 0 < significand)
      (normal : (finite false significand exponent).IsNormal)
      (counted : units = significand * 2 ^ (exponent - leastExponent).toNat)
      (someUnits : 0 < units) (below : units < unitsOfInfinity) :
      AmountsTo (.finite .negative significand exponent someSignificand) (-units)
  | infinitelySmall : AmountsTo (.infinity .negative) (-unitsOfInfinity)

theorem amountsTo_leastUnits {number : Binary64} (normal : number.IsNormal)
    (numeric : number.isNumeric) : AmountsTo number.unpacked number.leastUnits := by
  cases number with
  | nan => simp [isNumeric] at numeric
  | infinite negative =>
      cases negative with
      | false => exact .infinitelyLarge
      | true => exact .infinitelySmall
  | finite negative significand exponent =>
      have below := units_lt_unitsOfInfinity normal
      by_cases someSignificand : 0 < significand
      · have someUnits : 0 < significand * 2 ^ (exponent - leastExponent).toNat :=
          Nat.mul_pos someSignificand (Nat.two_pow_pos _)
        cases negative with
        | false =>
            simp only [unpacked, someSignificand, dite_true]
            exact .positive someSignificand normal rfl someUnits below
        | true =>
            simp only [unpacked, someSignificand, dite_true]
            exact .negative someSignificand normal rfl someUnits below
      · have nothing : significand = 0 := Nat.eq_zero_of_not_pos someSignificand
        subst nothing
        simpa [unpacked, leastUnits, Decimal.signedNumerator] using AmountsTo.zero (signOf negative)

theorem compare_neg_neg (left right : Int) :
    compare (-left) (-right) = (compare left right).swap := by
  rcases lt_trichotomy left right with smaller | rfl | greater
  · rw [compare_lt_iff_lt.mpr smaller, compare_gt_iff_gt.mpr (neg_lt_neg smaller)]
    rfl
  · simp
  · rw [compare_gt_iff_gt.mpr greater, compare_lt_iff_lt.mpr (neg_lt_neg greater)]
    rfl

/-- Comparing unpacked numbers is comparing what they amount to. -/
theorem AmountsTo.compare_eq {left right : UnpackedFloat} {leftUnits rightUnits : Int}
    (leftAmount : AmountsTo left leftUnits) (rightAmount : AmountsTo right rightUnits) :
    left.compare right = some (compare leftUnits rightUnits) := by
  have farAway : 0 < unitsOfInfinity := Nat.two_pow_pos _
  have isEqual (units : Int) : some Ordering.eq = some (compare units units) := by
    rw [compare_eq_iff_eq.mpr rfl]
  have isLess {less greater : Int} (smaller : less < greater) :
      some Ordering.lt = some (compare less greater) := by rw [compare_lt_iff_lt.mpr smaller]
  have isGreater {greater less : Int} (smaller : less < greater) :
      some Ordering.gt = some (compare greater less) := by rw [compare_gt_iff_gt.mpr smaller]
  -- The signs settle all cases but those of two finite numbers on one side of zero.
  cases leftAmount with
  | infinitelyLarge =>
      cases rightAmount with
      | infinitelyLarge => exact isEqual _
      | _ => exact isGreater (by omega)
  | positive _ leftNormal leftCounted =>
      cases rightAmount with
      | infinitelyLarge => exact isLess (by omega)
      | positive _ rightNormal rightCounted =>
          subst leftCounted rightCounted
          exact congrArg some (compare_exponent_then_significand leftNormal rightNormal)
      | _ => exact isGreater (by omega)
  | zero =>
      cases rightAmount with
      | infinitelyLarge => exact isLess (by omega)
      | positive => exact isLess (by omega)
      | zero => rfl
      | negative => exact isGreater (by omega)
      | infinitelySmall => exact isGreater (by omega)
  | negative _ leftNormal leftCounted =>
      cases rightAmount with
      | negative _ rightNormal rightCounted =>
          subst leftCounted rightCounted
          rw [compare_neg_neg]
          exact congrArg (some ·.swap) (compare_exponent_then_significand leftNormal rightNormal)
      | infinitelySmall => exact isGreater (by omega)
      | _ => exact isLess (by omega)
  | infinitelySmall =>
      cases rightAmount with
      | infinitelySmall => exact isEqual _
      | _ => exact isLess (by omega)

end Comparison

theorem isNumeric_ofFloat (number : Float) : (ofFloat number).isNumeric = !number.isNaN := by
  change _ = !number.toModel.unpack.isNaN
  rw [← unpacked_ofFloat]
  cases ofFloat number with
  | nan => rfl
  | infinite negative => rfl
  | finite negative significand exponent =>
      simp only [unpacked]
      split <;> rfl

theorem isFinite_ofFloat (number : Float) : (ofFloat number).isFinite = number.isFinite := by
  change _ = number.toModel.unpack.isFinite
  rw [← unpacked_ofFloat]
  cases ofFloat number with
  | nan => rfl
  | infinite negative => rfl
  | finite negative significand exponent =>
      simp only [unpacked]
      split <;> rfl

theorem exists_ofFloat_eq_finite {number : Float} (finite : number.isFinite) :
    ∃ negative significand exponent, ofFloat number = .finite negative significand exponent := by
  rw [← isFinite_ofFloat] at finite
  cases decoded : ofFloat number with
  | nan => simp [decoded, isFinite] at finite
  | infinite negative => simp [decoded, isFinite] at finite
  | finite negative significand exponent => exact ⟨negative, significand, exponent, rfl⟩

theorem isNaN_eq_false_of_isFinite {number : Float} (finite : number.isFinite) :
    number.isNaN = false := by
  rcases exists_ofFloat_eq_finite finite with ⟨negative, significand, exponent, decoded⟩
  have numeric := isNumeric_ofFloat number
  simpa [decoded, isNumeric] using numeric.symm

section Order

variable {left right : Float}

theorem amountsTo_unpack {number : Float} (numeric : number.isNaN = false) :
    AmountsTo number.toModel.unpack (ofFloat number).leastUnits := by
  rw [← unpacked_ofFloat]
  apply amountsTo_leastUnits (isNormal_ofFloat number)
  rw [isNumeric_ofFloat, numeric]
  rfl

theorem compare_unpack (leftNumeric : left.isNaN = false) (rightNumeric : right.isNaN = false) :
    left.toModel.unpack.compare right.toModel.unpack =
      some (compare (ofFloat left).leastUnits (ofFloat right).leastUnits) :=
  (amountsTo_unpack leftNumeric).compare_eq (amountsTo_unpack rightNumeric)

theorem lt_iff_leastUnits_lt (leftNumeric : left.isNaN = false)
    (rightNumeric : right.isNaN = false) :
    left < right ↔ (ofFloat left).leastUnits < (ofFloat right).leastUnits := by
  rw [← compare_lt_iff_lt]
  change decide ((left.toModel.unpack.compare right.toModel.unpack == some .lt) = true) = true ↔ _
  rw [compare_unpack leftNumeric rightNumeric]
  simp

theorem le_iff_leastUnits_le (leftNumeric : left.isNaN = false)
    (rightNumeric : right.isNaN = false) :
    left ≤ right ↔ (ofFloat left).leastUnits ≤ (ofFloat right).leastUnits := by
  rw [← compare_le_iff_le, ne_eq, Ordering.ne_gt_iff_isLE]
  change decide ((left.toModel.unpack.compare right.toModel.unpack).any (·.isLE) = true) = true ↔ _
  rw [compare_unpack leftNumeric rightNumeric]
  simp

theorem compare_unpack_of_isNaN (undefined : left.isNaN = true ∨ right.isNaN = true) :
    left.toModel.unpack.compare right.toModel.unpack = none := by
  change left.toModel.unpack.isNaN = true ∨ right.toModel.unpack.isNaN = true at undefined
  cases leftUnpacked : left.toModel.unpack <;> cases rightUnpacked : right.toModel.unpack <;>
    simp_all [UnpackedFloat.isNaN, UnpackedFloat.compare]

theorem not_lt_of_isNaN (undefined : left.isNaN = true ∨ right.isNaN = true) : ¬left < right := by
  change ¬decide ((left.toModel.unpack.compare right.toModel.unpack == some .lt) = true) = true
  rw [compare_unpack_of_isNaN undefined]
  decide

theorem not_le_of_isNaN (undefined : left.isNaN = true ∨ right.isNaN = true) : ¬left ≤ right := by
  change ¬decide ((left.toModel.unpack.compare right.toModel.unpack).any (·.isLE) = true) = true
  rw [compare_unpack_of_isNaN undefined]
  decide

/-- What can be compared is no NaN. -/
theorem isNaN_eq_false_of_le (below : left ≤ right) :
    left.isNaN = false ∧ right.isNaN = false := by
  rw [← Bool.not_eq_true, ← Bool.not_eq_true, ← not_or]
  exact fun undefined => not_le_of_isNaN undefined below

theorem le_trans {first second third : Float} (below : first ≤ second) (above : second ≤ third) :
    first ≤ third := by
  rcases isNaN_eq_false_of_le below with ⟨firstNumeric, secondNumeric⟩
  have thirdNumeric := (isNaN_eq_false_of_le above).2
  rw [le_iff_leastUnits_le firstNumeric secondNumeric] at below
  rw [le_iff_leastUnits_le secondNumeric thirdNumeric] at above
  rw [le_iff_leastUnits_le firstNumeric thirdNumeric]
  exact below.trans above

end Order

end Lindenmayer.Binary64
