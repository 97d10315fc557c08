import Lindenmayer.Decimal.Reading
import Lindenmayer.Document.Lines

/-!
# Reading documents

What a reader makes of the lines of a document who knows nothing of how they have been
written: a line is taken apart at its blanks, operands are numbers of hundredths, and
the sides of the bounding box are whole numbers.
-/

namespace Lindenmayer.Document

/-- A point as it is printed, in hundredths. -/
structure PrintedPoint where
  x : Int
  y : Int
deriving DecidableEq, Repr

def PrintedPoint.ofPoint (point : Point) : PrintedPoint where
  x := Decimal.hundredthsOf (.ofFloat point.x)
  y := Decimal.hundredthsOf (.ofFloat point.y)

/-- A path command as it is printed. -/
inductive PrintedCommand where
  | newPath (point : PrintedPoint)
  | lineTo (point : PrintedPoint)
  | moveTo (point : PrintedPoint)
  | stroke
deriving DecidableEq, Repr

def PrintedCommand.ofCommand : PathCommand → PrintedCommand
  | .newPath point => newPath (.ofPoint point)
  | .lineTo point => lineTo (.ofPoint point)
  | .moveTo point => moveTo (.ofPoint point)
  | .stroke => stroke

/-- A box with whole numbers for sides. -/
structure PrintedBox where
  left : Int
  bottom : Int
  right : Int
  top : Int
deriving DecidableEq, Repr

def PrintedBox.ofBox (box : Box) : PrintedBox where
  left := Decimal.floor box.min.x
  bottom := Decimal.floor box.min.y
  right := Decimal.ceiling box.max.x
  top := Decimal.ceiling box.max.y

/-- Whether a point given in hundredths lies within the sides. -/
def PrintedBox.Contains (box : PrintedBox) (point : PrintedPoint) : Prop :=
  (100 * box.left ≤ point.x ∧ point.x ≤ 100 * box.right) ∧
    (100 * box.bottom ≤ point.y ∧ point.y ≤ 100 * box.top)

def PrintedCommand.points : PrintedCommand → List PrintedPoint
  | newPath point => [point]
  | lineTo point => [point]
  | moveTo point => [point]
  | stroke => []

/-- The parts of a line between its blanks. -/
def words (text : String) : List String :=
  (text.toList.splitOn ' ').map String.ofList

def readPoint? (x y : String) : Option PrintedPoint := do
  return ⟨← Decimal.readFixed? x.toList, ← Decimal.readFixed? y.toList⟩

def readCommand? (text : String) : Option PrintedCommand :=
  match words text with
  | ["newpath", x, y, "moveto"] => (readPoint? x y).map .newPath
  | [x, y, "lineto"] => (readPoint? x y).map .lineTo
  | [x, y, "moveto"] => (readPoint? x y).map .moveTo
  | ["stroke"] => some .stroke
  | _ => none

def readBox? (text : String) : Option PrintedBox :=
  match words text with
  | ["%%BoundingBox:", left, bottom, right, top] => do
    return ⟨← Decimal.readWhole? left.toList, ← Decimal.readWhole? bottom.toList,
      ← Decimal.readWhole? right.toList, ← Decimal.readWhole? top.toList⟩
  | _ => none

end Lindenmayer.Document
