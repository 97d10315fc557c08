import Lindenmayer.Decimal.Fixed
import Lindenmayer.Decimal.Whole
import Lindenmayer.Geometry.Box
import Lindenmayer.Path.Command

/-!
# The lines of a document

An Encapsulated PostScript document consists of header comments, one line for
each path command, and trailer comments. Coordinates have two decimal places.
The bounding box is put off to the trailer, where it is given in whole numbers,
rounded outwards.
-/

namespace Lindenmayer.Document

def line (text : String) : String := text ++ "\n"

def pointText (point : Point) : String :=
  Decimal.fixed point.x ++ " " ++ Decimal.fixed point.y

def commandText : PathCommand → String
  | .newPath point => "newpath " ++ pointText point ++ " moveto"
  | .lineTo point => pointText point ++ " lineto"
  | .moveTo point => pointText point ++ " moveto"
  | .stroke => "stroke"

def commandLine (command : PathCommand) : String :=
  line (commandText command)

def headerLines (title creator : String) : List String := [
  line "%!PS-Adobe-3.0 EPSF-3.0",
  line ("%%Title: (" ++ title ++ ")"),
  line ("%%Creator: (" ++ creator ++ ")"),
  line "%%BoundingBox: (atend)",
  line "%%EndComments"
]

/-- A box in whole numbers, rounded outwards. -/
def boxText (box : Box) : String :=
  let sides := [
    Decimal.floor box.min.x, Decimal.floor box.min.y,
    Decimal.ceiling box.max.x, Decimal.ceiling box.max.y]
  String.intercalate " " (sides.map toString)

def trailerLines (box : Box) : List String := [
  line "%%Trailer",
  line ("%%BoundingBox: " ++ boxText box),
  line "%%EOF"
]

end Lindenmayer.Document
