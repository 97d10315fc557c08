import Lindenmayer.Geometry.Point

/-!
# Axis-aligned boxes

A box is grown point by point so that it ends up covering everything visited.
Sides are chosen by one strict comparison that prefers the newcomer: between
equal values, and whenever the comparison fails because a NaN is involved, the
newcomer's value is taken. Without NaN the sides are the extreme coordinates,
up to the sign of a zero.
-/

namespace Lindenmayer

/-- The smaller of two numbers; `newcomer` unless `held` is strictly smaller. -/
def lesser (held newcomer : Float) : Float :=
  if held < newcomer then held else newcomer

/-- The greater of two numbers; `newcomer` unless `held` is strictly greater. -/
def greater (held newcomer : Float) : Float :=
  if held > newcomer then held else newcomer

/-- An axis-aligned rectangle, given by its lower left and upper right corners. -/
structure Box where
  min : Point
  max : Point
deriving Inhabited

namespace Box

def singleton (point : Point) : Box := ⟨point, point⟩

/-- Unites two boxes; where a comparison decides nothing, the second one prevails. -/
def union (held newcomer : Box) : Box where
  min := ⟨lesser held.min.x newcomer.min.x, lesser held.min.y newcomer.min.y⟩
  max := ⟨greater held.max.x newcomer.max.x, greater held.max.y newcomer.max.y⟩

def insert (box : Box) (point : Point) : Box where
  min := ⟨lesser box.min.x point.x, lesser box.min.y point.y⟩
  max := ⟨greater box.max.x point.x, greater box.max.y point.y⟩

def width (box : Box) : Float := box.max.x - box.min.x

def height (box : Box) : Float := box.max.y - box.min.y

/-- Whether a point lies within the sides, the sides included. -/
def contains (box : Box) (point : Point) : Bool :=
  (point.x ≥ box.min.x && point.y ≥ box.min.y) && (point.x ≤ box.max.x && point.y ≤ box.max.y)

/-- Covering a point is uniting with the box of no area there. -/
theorem insert_eq_union (box : Box) (point : Point) : box.insert point = box.union (singleton point) :=
  rfl

end Box

end Lindenmayer
