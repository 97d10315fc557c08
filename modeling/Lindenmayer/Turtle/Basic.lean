import Lindenmayer.Turtle.Operation
import Lindenmayer.Turtle.Pose

/-!
# Turtles

A turtle is anything that can be steered by the seven operations. It has a pose
and units, can be put into another pose, and knows action names. Nothing further
is assumed of it here: what drawing means is for the instance to say.
-/

namespace Lindenmayer

/-- The abilities every turtle has. -/
class Turtle (τ : Type) where
  draw : τ → τ
  /-- Advances one step without drawing. -/
  jump : τ → τ
  /-- Turns counter-clockwise by the unit angle. -/
  turnLeft : τ → τ
  /-- Turns clockwise by the unit angle. -/
  turnRight : τ → τ
  push : τ → τ
  /-- Restores the pose saved last, and does nothing when there is none. -/
  pop : τ → τ
  stay : τ → τ := id
  /-- Takes up a pose and forgets the saved ones. -/
  reset : τ → Pose → τ
  pose : τ → Pose
  setUnits : τ → Units → τ
  units : τ → Units
  /-- The operation an action name stands for. -/
  resolve? : τ → String → Option Operation

namespace Turtle

variable {τ : Type} [Turtle τ]

def apply (turtle : τ) : Operation → τ
  | .draw => draw turtle
  | .move => jump turtle
  | .turnLeft => turnLeft turtle
  | .turnRight => turnRight turtle
  | .push => push turtle
  | .pop => pop turtle
  | .stay => stay turtle

def applyAll (turtle : τ) (operations : List Operation) : τ :=
  operations.foldl apply turtle

def position (turtle : τ) : Point :=
  (pose turtle).position

end Turtle

end Lindenmayer
