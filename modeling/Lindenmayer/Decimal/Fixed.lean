import Lindenmayer.Binary64

/-!
# Numbers with two decimal places

Coordinates are written with exactly two decimal places and never with an
exponent. The exact binary value is rounded to a whole number of hundredths, a
half going to the even neighbour. The sign is that of the number itself, so a
small negative number is written `-0.00`.
-/

namespace Lindenmayer.Decimal

/-- The whole number nearest to `numerator / denominator`, a half going to the even one. -/
def nearestEven (numerator denominator : Nat) : Nat :=
  let quotient := numerator / denominator
  let remainder := numerator % denominator
  if 2 * remainder < denominator then
    quotient
  else if denominator < 2 * remainder then
    quotient + 1
  else if quotient % 2 = 0 then
    quotient
  else
    quotient + 1

/-- The hundredths nearest to `significand * 2 ^ exponent`. -/
def hundredths (significand : Nat) (exponent : Int) : Nat :=
  let (numerator, denominator) := binaryFraction significand exponent
  nearestEven (100 * numerator) denominator

def digit (value : Nat) : Char :=
  Char.ofNat ('0'.toNat + value % 10)

/-- Hundredths written with a point before the last two digits. -/
def hundredthsText (count : Nat) : List Char :=
  Nat.toDigits 10 (count / 100) ++ ['.', digit (count / 10), digit count]

def signText (negative : Bool) : List Char :=
  if negative then ['-'] else []

def fixedChars : Binary64 → List Char
  | .nan => ['N', 'a', 'N']
  | .infinite negative => signText negative ++ ['i', 'n', 'f']
  | .finite negative significand exponent =>
    signText negative ++ hundredthsText (hundredths significand exponent)

def fixed (number : Float) : String :=
  String.ofList (fixedChars (.ofFloat number))

end Lindenmayer.Decimal
