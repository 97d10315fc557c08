import Lindenmayer.Geometry.Point
import Mathlib.Data.List.DropRight

/-!
# What is left of a way after a NaN

A NaN among the coordinates of a way divides it, on its axis, into what came before and what
comes after. The axes are divided at places of their own.
-/

namespace Lindenmayer

/-- The numbers after the last NaN; all of them if there is none. -/
def sinceNaN (numbers : List Float) : List Float :=
  numbers.rtakeWhile fun number => !number.isNaN

/-- Whether a number lies between two numbers of a list, these included. -/
def LiesBetween (number : Float) (numbers : List Float) : Prop :=
  (∃ least ∈ numbers, least ≤ number) ∧ ∃ greatest ∈ numbers, number ≤ greatest

instance (number : Float) (numbers : List Float) : Decidable (LiesBetween number numbers) :=
  inferInstanceAs
    (Decidable ((∃ least ∈ numbers, least ≤ number) ∧ ∃ greatest ∈ numbers, number ≤ greatest))

/-- Whether a point lies, on each axis, between coordinates that are not followed by a NaN. -/
structure Point.LiesBetweenLatest (point : Point) (points : List Point) : Prop where
  x : LiesBetween point.x (sinceNaN (points.map Point.x))
  y : LiesBetween point.y (sinceNaN (points.map Point.y))

end Lindenmayer
