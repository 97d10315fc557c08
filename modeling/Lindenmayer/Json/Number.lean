import Lindenmayer.Decimal.Shortest

/-!
# JSON numbers

A number without point and exponent is kept as an integer if it fits 64 bits,
unsigned or negative. Every other number is a binary floating-point number,
computed as its significand times or over a power of ten, where the significand
takes in digits as long as it fits 64 bits.
-/

namespace Lindenmayer.Json

/-- A number as it was written. -/
inductive Number where
  | unsigned (value : UInt64)
  /-- A whole number below zero, given by its absolute value. -/
  | negative (magnitude : Nat)
  | float (value : Float)

namespace Number

def toFloat : Number → Float
  | unsigned value => value.toFloat
  | negative magnitude => -(UInt64.ofNat magnitude).toFloat
  | float value => value

/-- Floating-point numbers are written positionally between `0.00001` and `10 ^ 16`. -/
def floatLayout : Decimal.Layout where
  leastPoint := -5
  greatestPoint := 16
  positiveExponent := "+"

/-- A floating-point number written with the fewest digits; only finite ones can be written. -/
def floatChars? (value : Float) : Option (List Char) :=
  match Binary64.ofFloat value with
  | .finite isNegative significand exponent =>
    some (Decimal.shortestChars floatLayout isNegative significand exponent)
  | _ => none

/-- The number as JSON text; one that is not finite is written as `null`. -/
def chars : Number → List Char
  | unsigned value => Nat.toDigits 10 value.toNat
  | negative magnitude => '-' :: Nat.toDigits 10 magnitude
  | float value => (floatChars? value).getD ['n', 'u', 'l', 'l']

def greatestSignificand : Nat := Nat.pow 2 64 - 1

def greatestMagnitude : Nat := Nat.pow 2 63

/-- The greatest absolute value of an exponent that is looked at. -/
def greatestExponent : Nat := Nat.pow 2 31 - 1

def ofInteger (isNegative : Bool) (magnitude : Nat) : Number :=
  if isNegative then
    if magnitude = 0 ∨ greatestMagnitude < magnitude then
      float (-(UInt64.ofNat magnitude).toFloat)
    else
      negative magnitude
  else
    unsigned (UInt64.ofNat magnitude)

/-- The greatest power of ten that is a floating-point number has this exponent. -/
def greatestPower : Nat := 308

def powerOfTen (exponent : Nat) : Float :=
  Float.ofScientific 1 false exponent

/-- Divides by the greatest power of ten a number of times, or until nothing is left. -/
def shrink : (times : Nat) → Float → Float
  | 0, value => value
  | times + 1, value =>
    if value == 0.0 then value else shrink times (value / powerOfTen greatestPower)

/-- A significand times a power of ten, unless it exceeds all floating-point numbers. -/
def scaled? (significand : Nat) (exponent : Int) : Option Float :=
  let value := (UInt64.ofNat significand).toFloat
  if 0 ≤ exponent then
    if exponent.toNat ≤ greatestPower then
      let product := value * powerOfTen exponent.toNat
      if product.isInf then none else some product
    else if value == 0.0 then some value
    else none
  else
    let magnitude := exponent.natAbs
    let times := (magnitude - 1) / greatestPower
    some (shrink times value / powerOfTen (magnitude - times * greatestPower))

def ofParts? (isNegative : Bool) (significand : Nat) (exponent : Int) : Option Number :=
  (scaled? significand exponent).map fun value => float (if isNegative then -value else value)

end Number

end Lindenmayer.Json
