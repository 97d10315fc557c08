import Lindenmayer.Geometry.Box
import Lindenmayer.Json.Typed
import Lindenmayer.Path.Command
import Lindenmayer.Turtle.Operation
import Lindenmayer.Turtle.Pose

/-!
# JSON forms of drawing data

How points, boxes, units, poses, operations and path commands are read and
written. A point is the list of its coordinates; boxes, units and poses are
records; operations and path commands are named forms.
-/

namespace Lindenmayer

open Json

/-! ## Points -/

namespace Point

def expected : String := "a sequence of 2 f64 values"

def read (levels : Nat) : Reader Point :=
  Reader.listOf levels expected fun _ => do
    let x ← Reader.required 0 expected Reader.float
    let y ← Reader.required 1 expected Reader.float
    return ⟨x, y⟩

def toJson (point : Point) : Value := .list [.float point.x, .float point.y]

end Point

/-! ## Records -/

def Box.shape : RecordShape (Option Point × Option Point) Box :=
  .ofPair "BoundingBox" ("min", Point.read) ("max", Point.read) Box.mk

def Box.toJson (box : Box) : Value :=
  .object [("min", box.min.toJson), ("max", box.max.toJson)]

def Units.shape : RecordShape (Option Float × Option Float) Units :=
  .ofPair "Units" ("step", fun _ => Reader.float) ("angle", fun _ => Reader.float) Units.mk

def Units.toJson (units : Units) : Value :=
  .object [("step", .float units.step), ("angle", .float units.angle)]

def Pose.shape : RecordShape (Option Point × Option Float) Pose :=
  .ofPair "TurtleState" ("position", Point.read) ("heading", fun _ => Reader.float) Pose.mk

def Pose.toJson (pose : Pose) : Value :=
  .object [("position", pose.position.toJson), ("heading", .float pose.heading)]

/-! ## Named forms -/

def Operation.formName : Operation → String
  | .draw => "Draw"
  | .move => "Move"
  | .turnLeft => "TurnLeft"
  | .turnRight => "TurnRight"
  | .push => "Push"
  | .pop => "Pop"
  | .stay => "Stay"

def Operation.forms : List (String × Form Operation) :=
  all.map fun operation => (operation.formName, .bare operation)

def Operation.toJson (operation : Operation) : Value := .string operation.formName

/-- A form that has a point for its contents. -/
def Form.ofPoint {α : Type} (build : Point → α) : Form α :=
  .loaded fun levels => do return build (← Point.read levels)

def PathCommand.forms : List (String × Form PathCommand) := [
  ("Open", Form.ofPoint .newPath),
  ("LineTo", Form.ofPoint .lineTo),
  ("MoveTo", Form.ofPoint .moveTo),
  ("Stroke", .bare .stroke)
]

def PathCommand.toJson : PathCommand → Value
  | .newPath point => .object [("Open", point.toJson)]
  | .lineTo point => .object [("LineTo", point.toJson)]
  | .moveTo point => .object [("MoveTo", point.toJson)]
  | .stroke => .string "Stroke"

end Lindenmayer
