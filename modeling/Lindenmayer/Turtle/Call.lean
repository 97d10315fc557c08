import Lindenmayer.Turtle.Basic

/-!
# Turtle calls

The things a turtle can be told as data, so that what happens to a turtle is a
list of calls.
-/

namespace Lindenmayer

/-- Something a turtle can be told. -/
inductive TurtleCall where
  | draw
  | jump
  | turnLeft
  | turnRight
  | push
  | pop
  | stay
  | reset (pose : Pose)
  | setUnits (units : Units)

namespace TurtleCall

variable {τ : Type} [Turtle τ]

def perform (turtle : τ) : TurtleCall → τ
  | draw => Turtle.draw turtle
  | jump => Turtle.jump turtle
  | turnLeft => Turtle.turnLeft turtle
  | turnRight => Turtle.turnRight turtle
  | push => Turtle.push turtle
  | pop => Turtle.pop turtle
  | stay => Turtle.stay turtle
  | reset pose => Turtle.reset turtle pose
  | setUnits units => Turtle.setUnits turtle units

def performAll (turtle : τ) (calls : List TurtleCall) : τ :=
  calls.foldl perform turtle

def ofOperation : Operation → TurtleCall
  | .draw => draw
  | .move => jump
  | .turnLeft => turnLeft
  | .turnRight => turnRight
  | .push => push
  | .pop => pop
  | .stay => stay

theorem perform_ofOperation (turtle : τ) (operation : Operation) :
    (ofOperation operation).perform turtle = Turtle.apply turtle operation := by
  cases operation <;> rfl

end TurtleCall

end Lindenmayer
