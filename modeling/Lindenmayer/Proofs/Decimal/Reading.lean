import Lindenmayer.Decimal.Reading
import Lindenmayer.Proofs.Decimal.Rounding

/-!
# Reading back numerals

Whole numbers are read from their numerals again, and finite numbers that have been
printed with two decimal places are read as the hundredths that they have been rounded to.
-/

namespace Lindenmayer.Decimal

section Digits

theorem digit_isDigit (value : Nat) : (digit value).isDigit := by
  have decimal : ∀ remainder < 10, (Char.ofNat ('0'.toNat + remainder)).isDigit := by decide
  exact decimal (value % 10) (Nat.mod_lt _ (by decide))

theorem toNat_digit (value : Nat) : (digit value).toNat - '0'.toNat = value % 10 := by
  have decimal : ∀ remainder < 10,
      (Char.ofNat ('0'.toNat + remainder)).toNat - '0'.toNat = remainder := by decide
  exact decimal (value % 10) (Nat.mod_lt _ (by decide))

theorem not_mem_of_isDigit {char : Char} {chars : List Char}
    (digits : ∀ other ∈ chars, other.isDigit) (notDigit : char.isDigit = false) : char ∉ chars := by
  intro charMem
  have isDigit := digits char charMem
  simp [notDigit] at isDigit

theorem isDigit_of_mem_toDigits (count : Nat) :
    ∀ char ∈ Nat.toDigits 10 count, char.isDigit :=
  fun _ charMem => Nat.isDigit_of_mem_toDigits (by decide) (by decide) charMem

theorem readDigits?_of_isDigit {chars : List Char} (some : chars ≠ [])
    (digits : ∀ char ∈ chars, char.isDigit) :
    readDigits? chars = .some (Nat.ofDigitChars 10 chars 0) :=
  if_pos ⟨some, List.all_eq_true.mpr digits⟩

theorem readDigits?_toDigits (count : Nat) : readDigits? (Nat.toDigits 10 count) = some count := by
  rw [readDigits?_of_isDigit Nat.toDigits_ne_nil (isDigit_of_mem_toDigits count),
    Nat.ofDigitChars_ten_toDigits]

end Digits

section Signs

theorem readSigned?_of_unsigned {chars : List Char} (unsigned : '-' ∉ chars)
    (read? : List Char → Option Nat) :
    readSigned? read? chars = (read? chars).map (signedNumerator false) := by
  unfold readSigned?
  split
  · simp at unsigned
  · rfl

/-- A magnitude that is read on its own is read with its sign. -/
theorem readSigned?_append_signText {read? : List Char → Option Nat} {chars : List Char}
    {count : Nat} (read : read? chars = some count) (unsigned : '-' ∉ chars) (negative : Bool) :
    readSigned? read? (signText negative ++ chars) = some (signedNumerator negative count) := by
  cases negative with
  | true =>
      change (read? chars).map (signedNumerator true) = _
      rw [read]
      rfl
  | false =>
      change readSigned? read? chars = _
      rw [readSigned?_of_unsigned unsigned, read]
      rfl

theorem toList_toString (whole : Int) :
    (toString whole).toList =
      signText (decide (whole < 0)) ++ Nat.toDigits 10 whole.natAbs := by
  cases whole with
  | ofNat count => exact Nat.toList_repr
  | negSucc count =>
      change ("-" ++ Nat.repr (count + 1)).toList = _
      simp [signText]

theorem readWhole?_toString (whole : Int) : readWhole? (toString whole).toList = some whole := by
  have unsigned : '-' ∉ Nat.toDigits 10 whole.natAbs :=
    not_mem_of_isDigit (isDigit_of_mem_toDigits whole.natAbs) rfl
  rw [toList_toString, readWhole?, readSigned?_append_signText (readDigits?_toDigits _) unsigned]
  simp only [signedNumerator, decide_eq_true_eq]
  split <;> congr 1 <;> omega

theorem not_mem_toString {char : Char} (notDigit : char.isDigit = false) (notSign : char ≠ '-')
    (whole : Int) : char ∉ (toString whole).toList := by
  have digits : char ∉ Nat.toDigits 10 whole.natAbs :=
    not_mem_of_isDigit (isDigit_of_mem_toDigits whole.natAbs) notDigit
  rw [toList_toString]
  cases decide (whole < 0) <;> simp [signText, digits, notSign]

theorem blank_not_mem_toString (whole : Int) : ' ' ∉ (toString whole).toList :=
  not_mem_toString rfl (by decide) whole

end Signs

section Hundredths

theorem ofDigitChars_hundredths (count : Nat) :
    Nat.ofDigitChars 10 (Nat.toDigits 10 (count / 100) ++ [digit (count / 10), digit count]) 0 =
      count := by
  rw [Nat.ofDigitChars_append, Nat.ofDigitChars_ten_toDigits, Nat.ofDigitChars_cons,
    Nat.ofDigitChars_cons, toNat_digit, toNat_digit]
  simp only [Nat.ofDigitChars_nil]
  omega

theorem splitOn_hundredthsText (count : Nat) :
    (hundredthsText count).splitOn '.' =
      [Nat.toDigits 10 (count / 100), [digit (count / 10), digit count]] := by
  have joined : hundredthsText count =
      ['.'].intercalate [Nat.toDigits 10 (count / 100), [digit (count / 10), digit count]] := by
    simp [hundredthsText]
  rw [joined]
  apply List.splitOn_intercalate _ _ (by simp)
  intro part partMem
  simp only [List.mem_cons, List.not_mem_nil, or_false] at partMem
  rcases partMem with rfl | rfl
  · exact not_mem_of_isDigit (isDigit_of_mem_toDigits _) rfl
  · exact not_mem_of_isDigit (by simp [digit_isDigit]) rfl

theorem readHundredths?_hundredthsText (count : Nat) :
    readHundredths? (hundredthsText count) = some count := by
  have digits : ∀ char ∈ Nat.toDigits 10 (count / 100) ++ [digit (count / 10), digit count],
      char.isDigit := by
    intro char charMem
    rcases List.mem_append.mp charMem with whole | last
    · exact isDigit_of_mem_toDigits _ char whole
    · simp only [List.mem_cons, List.not_mem_nil, or_false] at last
      rcases last with rfl | rfl <;> exact digit_isDigit _
  rw [readHundredths?, splitOn_hundredthsText]
  simp only [Nat.toDigits_ne_nil, if_false]
  rw [readDigits?_of_isDigit (by simp) digits, ofDigitChars_hundredths]

theorem not_mem_hundredthsText {char : Char} (notDigit : char.isDigit = false)
    (notPoint : char ≠ '.') (count : Nat) : char ∉ hundredthsText count := by
  have notWhole : char ∉ Nat.toDigits 10 (count / 100) :=
    not_mem_of_isDigit (isDigit_of_mem_toDigits _) notDigit
  have notLast : ∀ value, char ≠ digit value := by
    rintro value rfl
    simp [digit_isDigit] at notDigit
  simp [hundredthsText, notWhole, notPoint, notLast]

/-- A finite number is read as the hundredths that it has been rounded to. -/
theorem readFixed?_fixed {number : Float} (finite : number.isFinite) :
    readFixed? (fixed number).toList = some (hundredthsOf (.ofFloat number)) := by
  rcases Binary64.exists_ofFloat_eq_finite finite with ⟨negative, significand, exponent, decoded⟩
  rw [fixed, String.toList_ofList, decoded]
  exact readSigned?_append_signText (readHundredths?_hundredthsText _)
    (not_mem_hundredthsText rfl (by decide) _) negative

theorem not_mem_fixed {char : Char} (notDigit : char.isDigit = false)
    (notMark : char ∉ ['-', '.', 'N', 'a', 'i', 'n', 'f']) (number : Float) :
    char ∉ (fixed number).toList := by
  simp only [List.mem_cons, List.not_mem_nil, or_false, not_or] at notMark
  rw [fixed, String.toList_ofList]
  cases Binary64.ofFloat number with
  | nan => simp [fixedChars, notMark]
  | infinite negative => cases negative <;> simp [fixedChars, signText, notMark]
  | finite negative significand exponent =>
      have magnitude : char ∉ hundredthsText (hundredths significand exponent) :=
        not_mem_hundredthsText notDigit notMark.2.1 _
      cases negative <;> simp [fixedChars, signText, magnitude, notMark]

theorem blank_not_mem_fixed (number : Float) : ' ' ∉ (fixed number).toList :=
  not_mem_fixed rfl (by decide) number

end Hundredths

end Lindenmayer.Decimal
