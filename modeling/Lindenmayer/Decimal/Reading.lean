import Lindenmayer.Decimal.Fixed
import Lindenmayer.Decimal.Whole

/-!
# Reading decimal numerals

Whole numbers are read, and numerals with two decimal places such as `-12.50`, which
stand for a whole number of hundredths. A zero has no sign then.
-/

namespace Lindenmayer.Decimal

def readDigits? (chars : List Char) : Option Nat :=
  if chars ≠ [] ∧ chars.all Char.isDigit then some (Nat.ofDigitChars 10 chars 0) else none

/-- Reads digits, a point and two more digits. -/
def readHundredths? (chars : List Char) : Option Nat :=
  match chars.splitOn '.' with
  | [whole, [tenths, units]] =>
    if whole = [] then none else readDigits? (whole ++ [tenths, units])
  | _ => none

/-- Reads what may have a minus sign in front of it. -/
def readSigned? (read? : List Char → Option Nat) : List Char → Option Int
  | '-' :: chars => (read? chars).map (signedNumerator true)
  | chars => (read? chars).map (signedNumerator false)

def readWhole? : List Char → Option Int := readSigned? readDigits?

/-- Reads a numeral with two decimal places, in hundredths. -/
def readFixed? : List Char → Option Int := readSigned? readHundredths?

/-- The hundredths that a finite number is rounded to. -/
def hundredthsOf : Binary64 → Int
  | .finite negative significand exponent =>
    signedNumerator negative (hundredths significand exponent)
  | _ => 0

end Lindenmayer.Decimal
