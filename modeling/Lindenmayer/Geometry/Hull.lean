import Lindenmayer.Geometry.Box

/-!
# The hull of points

What it is for a box to be the least one around given points. Between points the
sides are compared with the comparison of floating-point numbers, so a zero may
have either sign.
-/

namespace Lindenmayer.Box

/-- Whether a box has both corners of another one within its sides. -/
def encloses (outer inner : Box) : Bool :=
  outer.contains inner.min && outer.contains inner.max

/--
Whether a box contains given points, has no side that is not the coordinate of one
of them, and lies within every other box that contains them.
-/
structure IsHullOf (box : Box) (points : List Point) : Prop where
  contains : ∀ point ∈ points, box.contains point
  left : box.min.x ∈ points.map Point.x
  bottom : box.min.y ∈ points.map Point.y
  right : box.max.x ∈ points.map Point.x
  top : box.max.y ∈ points.map Point.y
  least : ∀ other : Box, (∀ point ∈ points, other.contains point) → other.encloses box

end Lindenmayer.Box
