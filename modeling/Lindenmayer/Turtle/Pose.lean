import Lindenmayer.Geometry.Point

/-!
# Poses and units

A pose is a position with a heading. The heading is measured in degrees,
counter-clockwise from the direction of the positive x axis. It is never brought
back into one full turn, since it is only ever used through its direction.
-/

namespace Lindenmayer

/-- Step length and turn angle shared by every advance and turn. -/
structure Units where
  step : Float
  /-- Degrees of one turn. -/
  angle : Float

namespace Units

def standard : Units := ⟨1.0, 90.0⟩

instance : Inhabited Units := ⟨standard⟩

end Units

structure Pose where
  position : Point
  /-- Degrees counter-clockwise from the positive x axis. -/
  heading : Float

namespace Pose

/-- At the origin, facing up. -/
def standard : Pose := ⟨.origin, 90.0⟩

instance : Inhabited Pose := ⟨standard⟩

/-- One degree in radians: the quotient of π and 180, rounded to a floating-point number. -/
def degree : Float := Float.ofBits 0x3f91df46a2529d39

/-- The vector of length one along a heading; a heading that is not finite points nowhere. -/
def directionOf (heading : Float) : Point :=
  if heading.isFinite then
    let radians := heading * degree
    ⟨radians.cos, radians.sin⟩
  else
    ⟨0.0 / 0.0, 0.0 / 0.0⟩

def direction (pose : Pose) : Point := directionOf pose.heading

def advance (pose : Pose) (distance : Float) : Pose :=
  { pose with position := pose.position.advance pose.direction distance }

/-- Turns counter-clockwise; a negative amount turns clockwise. -/
def rotate (pose : Pose) (degrees : Float) : Pose :=
  { pose with heading := pose.heading + degrees }

end Pose

end Lindenmayer
