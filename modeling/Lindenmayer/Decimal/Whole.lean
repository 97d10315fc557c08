import Lindenmayer.Binary64

/-!
# Rounding outwards to whole numbers

`Decimal.floor` and `Decimal.ceiling` give the neighbouring whole numbers of an
exact value, kept within the range of a 64-bit signed integer. A NaN counts as
zero, and an infinity goes to the end of the range on its side.
-/

namespace Lindenmayer.Decimal

def leastWhole : Int := -(Nat.pow 2 63)

def greatestWhole : Int := Nat.pow 2 63 - 1

/-- The member of the written range that is nearest to a whole number. -/
def clampWhole (value : Int) : Int :=
  max leastWhole (min greatestWhole value)

/-- Whether a whole number is in the written range. -/
def InRange (value : Int) : Prop := leastWhole ≤ value ∧ value ≤ greatestWhole

instance (value : Int) : Decidable (InRange value) :=
  inferInstanceAs (Decidable (leastWhole ≤ value ∧ value ≤ greatestWhole))

def signedNumerator (negative : Bool) (numerator : Nat) : Int :=
  if negative then -(numerator : Int) else numerator

/-- The greatest whole number not above `± significand * 2 ^ exponent`. -/
def floorOf (negative : Bool) (significand : Nat) (exponent : Int) : Int :=
  let (numerator, denominator) := binaryFraction significand exponent
  Int.fdiv (signedNumerator negative numerator) denominator

/-- The least whole number not below `± significand * 2 ^ exponent`. -/
def ceilingOf (negative : Bool) (significand : Nat) (exponent : Int) : Int :=
  -floorOf (!negative) significand exponent

/-- Applies a whole-number rounding, keeping the result within the written range. -/
def wholeOf (round : Bool → Nat → Int → Int) : Binary64 → Int
  | .nan => 0
  | .infinite negative => if negative then leastWhole else greatestWhole
  | .finite negative significand exponent => clampWhole (round negative significand exponent)

def floor (number : Float) : Int :=
  wholeOf floorOf (.ofFloat number)

def ceiling (number : Float) : Int :=
  wholeOf ceilingOf (.ofFloat number)

end Lindenmayer.Decimal
