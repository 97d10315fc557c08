import Lindenmayer.Path.Command
import Lindenmayer.Turtle.Basic
import Lindenmayer.Turtle.Pen
import Lindenmayer.Turtle.Vocabulary

/-!
# The tracing turtle

A turtle that moves like the silent one and sends every visible move to a path
sink. A path is begun by the first segment drawn, is cut in two wherever a pose
is saved or restored, and is painted when the turtle is reset or finished. Thus
at most one path is open at any time.
-/

namespace Lindenmayer

/-- A pen with a vocabulary and a sink, and whether a path is open in the sink. -/
structure TracingTurtle (σ : Type) where
  pen : Pen
  vocabulary : Vocabulary
  sink : σ
  pathOpen : Bool

namespace TracingTurtle

variable {σ : Type}

def standard (sink : σ) : TracingTurtle σ := ⟨.standard, .standard, sink, false⟩

def position (turtle : TracingTurtle σ) : Point :=
  turtle.pen.pose.position

variable [PathSink σ]

def emit (turtle : TracingTurtle σ) (command : PathCommand) : TracingTurtle σ :=
  { turtle with sink := PathSink.emit turtle.sink command }

def openPath (turtle : TracingTurtle σ) : TracingTurtle σ :=
  if turtle.pathOpen then turtle
  else { turtle.emit (.newPath turtle.position) with pathOpen := true }

def closePath (turtle : TracingTurtle σ) : TracingTurtle σ :=
  if turtle.pathOpen then { turtle.emit .stroke with pathOpen := false } else turtle

/-- Paints what has been drawn and goes on with a new path at the current position. -/
def restartPath (turtle : TracingTurtle σ) : TracingTurtle σ :=
  (turtle.emit .stroke).emit (.newPath turtle.position)

def draw (turtle : TracingTurtle σ) : TracingTurtle σ :=
  let opened := turtle.openPath
  let moved := { opened with pen := opened.pen.advance }
  moved.emit (.lineTo moved.position)

def jump (turtle : TracingTurtle σ) : TracingTurtle σ :=
  let moved := { turtle with pen := turtle.pen.advance }
  moved.emit (.moveTo moved.position)

/-- Saves the pose; an open path is cut here. -/
def push (turtle : TracingTurtle σ) : TracingTurtle σ :=
  let saved := { turtle with pen := turtle.pen.push }
  if saved.pathOpen then saved.restartPath else saved

/-- Restores the pose saved last, going on with the open path, if any, from there. -/
def pop (turtle : TracingTurtle σ) : TracingTurtle σ :=
  match turtle.pen.pop? with
  | none => turtle
  | some pen =>
    let restored := { turtle with pen }
    if restored.pathOpen then restored.restartPath
    else restored.emit (.moveTo restored.position)

/-- Paints the open path and takes up a pose. -/
def reset (turtle : TracingTurtle σ) (pose : Pose) : TracingTurtle σ :=
  let closed := turtle.closePath
  { closed with pen := closed.pen.reset pose }

/-- Paints the open path and hands back the sink. -/
def finish (turtle : TracingTurtle σ) : σ :=
  turtle.closePath.sink

instance : Turtle (TracingTurtle σ) where
  draw := draw
  jump := jump
  turnLeft turtle := { turtle with pen := turtle.pen.turnLeft }
  turnRight turtle := { turtle with pen := turtle.pen.turnRight }
  push := push
  pop := pop
  reset := reset
  pose turtle := turtle.pen.pose
  setUnits turtle units := { turtle with pen.units := units }
  units turtle := turtle.pen.units
  resolve? turtle := turtle.vocabulary.resolve?

/-- What a tracing turtle lets be seen of itself. -/
structure Appearance where
  pose : Pose
  units : Units
  /-- How many poses are saved; the poses themselves are not seen before they are restored. -/
  depth : Nat
  pathOpen : Bool

def appearance (turtle : TracingTurtle σ) : Appearance :=
  ⟨Turtle.pose turtle, Turtle.units turtle, turtle.pen.depth, turtle.pathOpen⟩

end TracingTurtle

end Lindenmayer
