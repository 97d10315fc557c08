/-!
# Points of the plane

Coordinates are binary floating-point numbers. Each addition and multiplication
rounds once, on its own.
-/

namespace Lindenmayer

/-- A point, or a displacement, in the plane. -/
structure Point where
  x : Float
  y : Float
deriving Inhabited

namespace Point

def origin : Point := ⟨0.0, 0.0⟩

def advance (point direction : Point) (distance : Float) : Point where
  x := point.x + direction.x * distance
  y := point.y + direction.y * distance

def isNumeric (point : Point) : Bool :=
  !point.x.isNaN && !point.y.isNaN

def isFinite (point : Point) : Bool :=
  point.x.isFinite && point.y.isFinite

end Point

end Lindenmayer
