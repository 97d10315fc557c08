import Lindenmayer.Turtle.Basic
import Lindenmayer.Turtle.Pen
import Lindenmayer.Turtle.Vocabulary

/-!
# The silent turtle

A turtle that keeps track of its pose and draws nothing. It serves for dry runs
and holds the starting pose and units that a grammar file asks for.
-/

namespace Lindenmayer

structure SilentTurtle where
  pen : Pen
  vocabulary : Vocabulary
deriving Inhabited

namespace SilentTurtle

def standard : SilentTurtle := ⟨.standard, .standard⟩

/-- Lets a change happen to the pen. -/
def mapPen (turtle : SilentTurtle) (change : Pen → Pen) : SilentTurtle :=
  { turtle with pen := change turtle.pen }

instance : Turtle SilentTurtle where
  draw turtle := turtle.mapPen Pen.advance
  jump turtle := turtle.mapPen Pen.advance
  turnLeft turtle := turtle.mapPen Pen.turnLeft
  turnRight turtle := turtle.mapPen Pen.turnRight
  push turtle := turtle.mapPen Pen.push
  pop turtle := turtle.mapPen Pen.pop
  reset turtle pose := turtle.mapPen (Pen.reset · pose)
  pose turtle := turtle.pen.pose
  setUnits turtle units := turtle.mapPen ({ · with units })
  units turtle := turtle.pen.units
  resolve? turtle := turtle.vocabulary.resolve?

end SilentTurtle

end Lindenmayer
