import Lindenmayer.Decimal.Shortest
import Lindenmayer.Proofs.Decimal.Reading
import Lindenmayer.Proofs.Json.Numbers

/-!
# Numbers are written as numerals

The shortest decimal of a number that is not zero has a digit other than zero to begin with,
and so every layout of it is a numeral, whether the point is put among the digits or an
exponent is added. The digits of an unsigned number are read back to this number, because
none of their beginnings stands for a greater one.
-/

namespace Lindenmayer

namespace Decimal

/-! ## Digits of the shortest decimal -/

theorem fst_binaryFraction_one_pos (exponent : Int) : 0 < (binaryFraction 1 exponent).1 := by
  unfold binaryFraction
  split
  · exact Nat.mul_pos Nat.one_pos (Nat.pow_pos (by decide))
  · exact Nat.one_pos

namespace RoundingInterval

variable {interval : RoundingInterval} {count : Nat}

/-- Whether zero lies outside of an interval, on the left. -/
structure IsPositive (interval : RoundingInterval) : Prop where
  low : 0 < interval.low
  value : 0 < interval.value

theorem isPositive_of {significand : Nat} (positive : 0 < significand) (exponent : Int) :
    (RoundingInterval.of significand exponent).IsPositive := by
  have scale := fst_binaryFraction_one_pos (exponent - 2)
  refine ⟨Nat.mul_pos ?_ scale, Nat.mul_pos (by omega) scale⟩
  split <;> omega

theorem IsPositive.inUnits (positive : interval.IsPositive) (power : Int) :
    (interval.inUnits power).IsPositive := by
  unfold RoundingInterval.inUnits
  split
  · exact ⟨positive.low, positive.value⟩
  · have factor : 0 < Nat.pow 10 (-power).toNat := Nat.pow_pos (by decide)
    exact ⟨Nat.mul_pos positive.low factor, Nat.mul_pos positive.value factor⟩

theorem IsPositive.pos_of_holds (positive : interval.IsPositive) (holds : interval.holds count) :
    0 < count := by
  have low := positive.low
  apply Nat.pos_of_ne_zero
  rintro rfl
  simp [RoundingInterval.holds] at holds
  omega

theorem holds_of_wholeUnits? (found : interval.wholeUnits? = some count) :
    interval.holds count := by
  simp only [wholeUnits?] at found
  grind

theorem IsPositive.search_pos (positive : interval.IsPositive) (grids : Nat) (power : Int) :
    0 < (interval.search grids power).1 := by
  induction grids generalizing power with
  | zero => exact (positive.inUnits power).value
  | succ grids inductionHypothesis =>
      unfold search
      split
      · rename_i found
        exact (positive.inUnits power).pos_of_holds (holds_of_wholeUnits? found)
      · exact inductionHypothesis _

end RoundingInterval

theorem shortest_pos {significand : Nat} (positive : 0 < significand) (exponent : Int) :
    0 < (shortest significand exponent).1 :=
  (RoundingInterval.isPositive_of positive exponent).search_pos _ _

theorem exists_leading_toDigits {count : Nat} (positive : 0 < count) :
    ∃ first rest, Nat.toDigits 10 count = first :: rest ∧ first ≠ '0' := by
  induction count using Nat.strongRecOn with
  | _ count inductionHypothesis =>
      by_cases small : count < 10
      · refine ⟨_, [], Nat.toDigits_of_lt_base small, ?_⟩
        have noZero : ∀ digit < 10, 0 < digit → digit.digitChar ≠ '0' := by decide
        exact noZero count small positive
      · rcases inductionHypothesis (count / 10) (by omega) (by omega) with
          ⟨first, rest, digits, leading⟩
        have split := Nat.toDigits_append_toDigits (by decide : 1 < 10) (by omega : 0 < count / 10)
          (Nat.mod_lt count (by decide : 10 > 0))
        rw [Nat.div_add_mod, digits] at split
        exact ⟨first, _, split.symm, leading⟩

end Decimal

namespace Json

open Decimal Reader

/-! ## Layouts of digits -/

/-- Whether characters are a numeral without a minus. -/
def IsMagnitude (chars : List Char) : Prop :=
  ∃ whole fraction exponent, IsWhole whole ∧ IsFraction fraction ∧ IsExponent exponent ∧
    chars = whole ++ (fraction ++ exponent)

theorem IsMagnitude.isNumeral {chars : List Char} (isMagnitude : IsMagnitude chars)
    (isNegative : Bool) : IsNumeral ((if isNegative then ['-'] else []) ++ chars) := by
  rcases isMagnitude with ⟨whole, fraction, exponent, isWhole, isFraction, isExponent, rfl⟩
  cases isNegative with
  | true =>
      change IsNumeral ('-' :: (whole ++ (fraction ++ exponent)))
      exact .negative isWhole isFraction isExponent
  | false =>
      change IsNumeral (whole ++ (fraction ++ exponent))
      exact .positive isWhole isFraction isExponent

theorem areDigits_toDigits (count : Nat) : AreDigits (Nat.toDigits 10 count) :=
  isDigit_of_mem_toDigits count

theorem areDigits_replicate (count : Nat) : AreDigits (List.replicate count '0') := by
  intro char charMem
  rw [List.eq_of_mem_replicate charMem]
  rfl

theorem areDigits_append {digits others : List Char} (areDigits : AreDigits digits)
    (othersDigits : AreDigits others) : AreDigits (digits ++ others) :=
  List.forall_mem_append.mpr ⟨areDigits, othersDigits⟩

section Layouts

variable {first : Char} {others : List Char}

/-- With the point between two of the digits. -/
theorem isMagnitude_point (areDigits : AreDigits (first :: others)) (leading : first ≠ '0')
    {point : Nat} (notBefore : 0 < point) (within : point < (first :: others).length) :
    IsMagnitude ((first :: others).take point ++ ['.'] ++ (first :: others).drop point) := by
  rcases List.forall_mem_cons.mp areDigits with ⟨isDigit, othersDigits⟩
  rcases Nat.exists_eq_succ_of_ne_zero (Nat.ne_of_gt notBefore) with ⟨before, rfl⟩
  refine ⟨first :: others.take before, '.' :: others.drop before, [], ?_, ?_, .none, by simp⟩
  · exact .digits isDigit leading fun char taken => othersDigits char (List.mem_of_mem_take taken)
  · refine .digits ?_ fun char left => othersDigits char (List.mem_of_mem_drop left)
    rw [Ne, List.drop_eq_nil_iff]
    simp only [List.length_cons] at within
    omega

/-- With an exponent, and with a point after the first digit unless it is the only one. -/
theorem isMagnitude_exponent (areDigits : AreDigits (first :: others)) (leading : first ≠ '0')
    {sign : List Char} (isSign : IsExponentSign sign) (exponent : Nat) :
    IsMagnitude ((first :: others).take 1 ++
      (if (first :: others).length ≤ 1 then [] else '.' :: (first :: others).drop 1) ++ ['e'] ++
      sign ++ Nat.toDigits 10 exponent) := by
  rcases List.forall_mem_cons.mp areDigits with ⟨isDigit, othersDigits⟩
  refine ⟨[first], if others = [] then [] else '.' :: others,
    'e' :: (sign ++ Nat.toDigits 10 exponent), .digits isDigit leading (by simp), ?_, ?_, ?_⟩
  · split
    · exact .none
    · rename_i some
      exact .digits some othersDigits
  · exact .digits (.inl rfl) isSign Nat.toDigits_ne_nil (areDigits_toDigits exponent)
  · cases others <;> simp

theorem isMagnitude_layout (layout : Layout)
    (isSign : IsExponentSign layout.positiveExponent.toList)
    (areDigits : AreDigits (first :: others)) (leading : first ≠ '0') (power : Int) :
    IsMagnitude (layout.chars (first :: others) power) := by
  rcases List.forall_mem_cons.mp areDigits with ⟨isDigit, othersDigits⟩
  unfold Layout.chars
  simp only
  split
  · split
    · -- Zeros fill the place up to the point.
      refine ⟨first :: (others ++ List.replicate power.toNat '0'), ['.', '0'], [], ?_, ?_, .none,
        by simp⟩
      · exact .digits isDigit leading (areDigits_append othersDigits (areDigits_replicate _))
      · exact .digits (by simp) (areDigits_replicate 1)
    · split
      · exact isMagnitude_point areDigits leading (by omega) (by omega)
      · have fraction (zeros : Nat) :
            IsFraction ('.' :: (List.replicate zeros '0' ++ first :: others)) :=
          .digits (by simp) (areDigits_append (areDigits_replicate zeros) areDigits)
        exact ⟨['0'], _, [], .zero, fraction _, .none, by simp only [List.append_nil]; rfl⟩
  · apply isMagnitude_exponent areDigits leading
    split
    · exact .minus
    · exact isSign

end Layouts

/-- A number is written as a numeral, unless it is not finite. -/
theorem isNumeral_floatChars {value : Float} {chars : List Char}
    (written : Number.floatChars? value = some chars) : IsNumeral chars := by
  unfold Number.floatChars? at written
  split at written
  · rename_i isNegative significand exponent _
    cases written
    unfold shortestChars
    by_cases isZero : significand = 0
    · rw [if_pos isZero]
      have zero : IsMagnitude ['0', '.', '0'] :=
        ⟨['0'], ['.', '0'], [], .zero, .digits (by simp) (areDigits_replicate 1), .none, rfl⟩
      exact zero.isNumeral isNegative
    · rw [if_neg isZero]
      rcases exists_leading_toDigits (shortest_pos (Nat.pos_of_ne_zero isZero) exponent) with
        ⟨first, others, digits, leading⟩
      have areDigits := areDigits_toDigits (shortest significand exponent).1
      simp only
      rw [digits] at areDigits ⊢
      exact (isMagnitude_layout Number.floatLayout .plus areDigits leading _).isNumeral isNegative
  · cases written

/-! ## Unsigned numbers -/

theorem le_ofDigitChars (digits : List Char) (value : Nat) :
    value ≤ Nat.ofDigitChars 10 digits value := by
  induction digits generalizing value with
  | nil => exact Nat.le_refl _
  | cons char digits inductionHypothesis =>
      rw [Nat.ofDigitChars_cons]
      exact Nat.le_trans (by omega) (inductionHypothesis _)

/-- Digits that stand for a number within the limit are all taken into it. -/
theorem absorb_ofDigitChars {digits rest : List Char} {limit value : Nat}
    (areDigits : AreDigits digits) (ends : EndsDigits rest)
    (within : Nat.ofDigitChars 10 digits value ≤ limit) :
    absorb limit value (digits ++ rest) =
      (Nat.ofDigitChars 10 digits value, digits.length, rest) := by
  induction digits generalizing value with
  | nil =>
      cases rest with
      | nil => rfl
      | cons char rest => simp [absorb, ends char rfl]
  | cons char digits inductionHypothesis =>
      rcases List.forall_mem_cons.mp areDigits with ⟨isDigit, restDigits⟩
      rw [Nat.ofDigitChars_cons] at within ⊢
      have fits := Nat.le_trans (le_ofDigitChars digits _) within
      rw [List.cons_append, absorb, if_pos ⟨isDigit, fits⟩, inductionHypothesis restDigits within]
      rfl

theorem absorbDigits_toDigits {count limit : Nat} {rest : List Char} (within : count ≤ limit)
    (ends : EndsDigits rest) :
    absorbDigits limit 0 (Nat.toDigits 10 count ++ rest) =
      .ok ((count, (Nat.toDigits 10 count).length), rest) := by
  have back : Nat.ofDigitChars 10 (Nat.toDigits 10 count) 0 = count :=
    Nat.ofDigitChars_ten_toDigits
  have absorbed := absorb_ofDigitChars (areDigits_toDigits count) ends
    (Nat.le_trans (Nat.le_of_eq back) within)
  unfold absorbDigits
  rw [bind_of_ok (get_apply _), absorbed, back]
  rfl

theorem numberTail_ends {rest : List Char} (ends : Ends rest) (isNegative : Bool)
    (significand : Nat) :
    numberTail isNegative significand 0 rest = .ok (.ofInteger isNegative significand, rest) := by
  have noPoint : rest.head? ≠ some '.' := by
    intro atHead
    have ended := ends '.' atHead
    simp [continuesNumber] at ended
  unfold numberTail
  rw [bind_of_ok (peek?_apply _), if_neg noPoint, bind_of_ok ends.atExponent_apply]
  rfl

/-- The digits of an unsigned number are read back. -/
theorem number_toDigits (value : UInt64) {rest : List Char} (ends : Ends rest) :
    number (Nat.toDigits 10 value.toNat ++ rest) = .ok (.unsigned value, rest) := by
  have areDigits := areDigits_toDigits value.toNat
  have nonempty : Nat.toDigits 10 value.toNat ≠ [] := Nat.toDigits_ne_nil
  have back : Number.ofInteger .false value.toNat = .unsigned value := by
    simp [Number.ofInteger]
  unfold number
  rw [bind_of_ok (skipIf_other (areDigits.head?_append_ne nonempty rfl))]
  unfold magnitude
  rw [bind_of_ok (peek?_append nonempty), if_neg (by simp [nonempty])]
  rcases Nat.eq_zero_or_pos value.toNat with isZero | positive
  · rw [isZero] at back ⊢
    change (skipIf '0' >>= _) ('0' :: rest) = _
    rw [bind_of_ok (skipIf_same _ _), if_pos rfl, bind_of_ok ends.endsDigits.atDigit_apply,
      if_neg Bool.false_ne_true, numberTail_ends ends, back]
  · rcases exists_leading_toDigits positive with ⟨first, others, digits, leading⟩
    have notZero : (Nat.toDigits 10 value.toNat ++ rest).head? ≠ some '0' := by
      simpa [digits] using leading
    have absorbed : absorbDigits Number.greatestSignificand 0
        (Nat.toDigits 10 value.toNat ++ rest) =
          .ok ((value.toNat, (Nat.toDigits 10 value.toNat).length), rest) :=
      absorbDigits_toDigits (Nat.le_sub_one_of_lt value.toNat_lt) ends.endsDigits
    have noneLeft : skipDigits rest = .ok (0, rest) :=
      skipDigits_append (List.forall_mem_nil _) ends.endsDigits
    rw [bind_of_ok (skipIf_other notZero), if_neg Bool.false_ne_true,
      bind_of_ok (atDigit_append areDigits ends.endsDigits), if_pos (by simp [nonempty]),
      bind_of_ok absorbed]
    change (skipDigits >>= _) rest = _
    rw [bind_of_ok noneLeft, numberTail_ends ends, back]

end Json

end Lindenmayer
