import Lindenmayer.Path.Painting
import Lindenmayer.Turtle.Call

/-!
# What a turtle draws

The segments that a list of calls asks a turtle to draw, read off its positions
before and after. Nothing is said here about how a turtle draws them.
-/

namespace Lindenmayer.TurtleCall

variable {τ : Type} [Turtle τ]

/-- The segments covered by the draw calls, in order. -/
def segments (turtle : τ) : List TurtleCall → List Segment
  | [] => []
  | draw :: rest =>
    ⟨Turtle.position turtle, Turtle.position (Turtle.draw turtle)⟩ ::
      segments (Turtle.draw turtle) rest
  | call :: rest => segments (call.perform turtle) rest

end Lindenmayer.TurtleCall
