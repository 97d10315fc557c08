/-!
# Binary floating-point numbers as exact values

A 64-bit floating-point number consists of a sign bit, eleven exponent bits and
fifty-two fraction bits. `Binary64.ofFloat` reads these off, so that text and
integer conversions can be computed with exact integer arithmetic: a finite
number is its sign times `significand * 2 ^ exponent`.
-/

namespace Lindenmayer

/-- The value that a 64-bit floating-point number stands for. -/
inductive Binary64 where
  | nan
  | infinite (negative : Bool)
  | finite (negative : Bool) (significand : Nat) (exponent : Int)
deriving DecidableEq, Repr

namespace Binary64

def fractionBits : Nat := 52

/-- The exponent of the last bit of the smallest numbers. -/
def leastExponent : Int := -1074

def ofBits (bits : Nat) : Binary64 :=
  let negative : Bool := bits ≥ Nat.pow 2 63
  let biased : Nat := bits / Nat.pow 2 fractionBits % Nat.pow 2 11
  let fraction := bits % Nat.pow 2 fractionBits
  if biased = Nat.pow 2 11 - 1 then
    if fraction = 0 then .infinite negative else .nan
  else if biased = 0 then
    .finite negative fraction leastExponent
  else
    .finite negative (Nat.pow 2 fractionBits + fraction) (leastExponent + ((biased - 1 : Nat) : Int))

def ofFloat (number : Float) : Binary64 :=
  ofBits number.toBits.toNat

end Binary64

/-- A non-negative fraction `significand * 2 ^ exponent` as numerator and denominator. -/
def binaryFraction (significand : Nat) (exponent : Int) : Nat × Nat :=
  if 0 ≤ exponent then
    (significand * Nat.pow 2 exponent.toNat, 1)
  else
    (significand, Nat.pow 2 (-exponent).toNat)

end Lindenmayer
