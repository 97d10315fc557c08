import Lindenmayer.Geometry.Coverage
import Lindenmayer.Grammar.Execution

/-!
# Boxes put together from parts

Points can be covered in parts: a box is grown along each part, point by point, and the boxes
are united, two at a time. A way of doing this is a tree with the parts at its leaves; growing a
single box along all points is the tree that is a leaf.

Boxes are compared up to the signs of zeros, which comparisons of numbers do not see.
-/

namespace Lindenmayer

def IsZero (number : Float) : Prop :=
  number = 0.0 ∨ number = -0.0

/-- Whether two numbers are the same one, except that zeros may differ in sign. -/
def SameNumber (number other : Float) : Prop :=
  number = other ∨ IsZero number ∧ IsZero other

/-- Whether two boxes have the same sides, except for the signs of zeros. -/
structure Box.SameExtent (box other : Box) : Prop where
  left : SameNumber box.min.x other.min.x
  bottom : SameNumber box.min.y other.min.y
  right : SameNumber box.max.x other.max.x
  top : SameNumber box.max.y other.max.y

/-- A way of covering points in parts. A part has a first point, from which its box is grown. -/
inductive Assembly where
  | part (first : Point) (rest : List Point)
  | union (left right : Assembly)

namespace Assembly

def parts : Assembly → List (List Point)
  | part first rest => [first :: rest]
  | union left right => left.parts ++ right.parts

def box : Assembly → Box
  | part first rest => .covering first rest
  | union left right => left.box.union right.box

end Assembly

end Lindenmayer
