import Lindenmayer.Binary64

/-!
# The shortest decimal of a number

A decimal is written with as few digits as possible, subject to reading back to
the same binary number. The decimals that do so form an interval around the
number, which reaches half-way to its neighbours and includes its ends if the
significand is even.

The digits are found on the coarsest decimal grid that has a point in this
interval. If the interval holds a point of a grid at all, it holds the one just
below the number or the one just above it, so only these two are looked at. Of
two such points the nearer one is taken, and the even one if they are equally
near.
-/

namespace Lindenmayer.Decimal

/-- A positive number and the interval of reals that round to it, over a common denominator. -/
structure RoundingInterval where
  low : Nat
  value : Nat
  high : Nat
  denominator : Nat
  /-- Whether the two ends belong to the interval. -/
  closed : Bool

namespace RoundingInterval

/-- The interval of `significand * 2 ^ exponent`, which must be positive. -/
def of (significand : Nat) (exponent : Int) : RoundingInterval :=
  let quarters := 4 * significand
  let isLeastOfBinade :=
    significand = Nat.pow 2 Binary64.fractionBits ∧ exponent ≠ Binary64.leastExponent
  let below := if isLeastOfBinade then 1 else 2
  let (scale, denominator) := binaryFraction 1 (exponent - 2)
  { low := (quarters - below) * scale
    value := quarters * scale
    high := (quarters + 2) * scale
    denominator
    closed := significand % 2 = 0 }

def scale (interval : RoundingInterval) (power : Nat) : RoundingInterval :=
  { interval with
    low := interval.low * Nat.pow 10 power
    value := interval.value * Nat.pow 10 power
    high := interval.high * Nat.pow 10 power }

def shrink (interval : RoundingInterval) (power : Nat) : RoundingInterval :=
  { interval with denominator := interval.denominator * Nat.pow 10 power }

/-- Number and interval in units of a power of ten. -/
def inUnits (interval : RoundingInterval) (power : Int) : RoundingInterval :=
  if 0 ≤ power then interval.shrink power.toNat else interval.scale (-power).toNat

/-- Whether a whole number of units lies in the interval. -/
def holds (interval : RoundingInterval) (count : Nat) : Bool :=
  let scaled := count * interval.denominator
  if interval.closed then
    interval.low ≤ scaled && scaled ≤ interval.high
  else
    interval.low < scaled && scaled < interval.high

/-- The whole number of units that represents the number, if any lies in the interval. -/
def wholeUnits? (interval : RoundingInterval) : Option Nat :=
  let below := interval.value / interval.denominator
  let above := below + 1
  match interval.holds below, interval.holds above with
  | false, false => none
  | true, false => some below
  | false, true => some above
  | true, true =>
    let toBelow := interval.value - below * interval.denominator
    let toAbove := above * interval.denominator - interval.value
    if toBelow < toAbove then some below
    else if toAbove < toBelow then some above
    else if below % 2 = 0 then some below
    else some above

/-- Looks for a grid with a point in the interval, from a given one to finer ones. -/
def search (interval : RoundingInterval) : (grids : Nat) → (power : Int) → Nat × Int
  | 0, power => ((interval.inUnits power).value, power)
  | grids + 1, power =>
    match (interval.inUnits power).wholeUnits? with
    | some count => (count, power)
    | none => interval.search grids (power - 1)

end RoundingInterval

/-- The finest grid that can be needed has points `10 ^ -324` apart. -/
def finestPower : Int := -324

/-- Digits and power of ten of the shortest decimal of a positive `significand * 2 ^ exponent`. -/
def shortest (significand : Nat) (exponent : Int) : Nat × Int :=
  let interval := RoundingInterval.of significand exponent
  let coarsest : Int := (Nat.toDigits 10 (interval.high / interval.denominator)).length
  interval.search (coarsest - finestPower + 1).toNat coarsest

structure Layout where
  /-- A point is written among or before the digits if it stands right of this place, … -/
  leastPoint : Int
  /-- … and not right of that one. Otherwise an exponent is written. -/
  greatestPoint : Int
  /-- The sign of exponents that are not negative. -/
  positiveExponent : String

namespace Layout

/-- The digits of a decimal with the point put in, or with an exponent. -/
def chars (layout : Layout) (digits : List Char) (power : Int) : List Char :=
  let point : Int := digits.length + power
  if layout.leastPoint < point ∧ point ≤ layout.greatestPoint then
    if 0 ≤ power then
      digits ++ List.replicate power.toNat '0' ++ ['.', '0']
    else if 0 < point then
      digits.take point.toNat ++ ['.'] ++ digits.drop point.toNat
    else
      ['0', '.'] ++ List.replicate (-point).toNat '0' ++ digits
  else
    let exponent := point - 1
    let sign := if exponent < 0 then ['-'] else layout.positiveExponent.toList
    let fraction := if digits.length ≤ 1 then [] else '.' :: digits.drop 1
    digits.take 1 ++ fraction ++ ['e'] ++ sign ++ Nat.toDigits 10 exponent.natAbs

end Layout

def shortestChars (layout : Layout) (negative : Bool) (significand : Nat) (exponent : Int) :
    List Char :=
  let sign := if negative then ['-'] else []
  if significand = 0 then
    sign ++ ['0', '.', '0']
  else
    let (digits, power) := shortest significand exponent
    sign ++ layout.chars (Nat.toDigits 10 digits) power

end Lindenmayer.Decimal
