import Lindenmayer.Document.Contents
import Lindenmayer.Path.Bracketing

/-!
# The body on its own

What can be told from the lines of path commands alone. Commands are compared by what is
printed of them, which is their kind and the texts of their coordinates; a reader makes
printed commands of bytes, line by line.
-/

namespace Lindenmayer

namespace PathCommand

/-- The coordinates of a command as they are written. -/
def coordinateTexts (command : PathCommand) : List String :=
  command.points.flatMap fun point => [Decimal.fixed point.x, Decimal.fixed point.y]

/-- Whether two commands are of one kind and their coordinates are written alike. -/
structure LooksLike (command other : PathCommand) : Prop where
  kind : command.kind = other.kind
  texts : command.coordinateTexts = other.coordinateTexts

end PathCommand

namespace Document

def PrintedCommand.kind : PrintedCommand → PathCommand.Kind
  | newPath _ => .newPath
  | lineTo _ => .lineTo
  | moveTo _ => .moveTo
  | stroke => .stroke

/-- Reads path commands, one from each line. -/
def readCommands? (bytes : ByteArray) : Option (List PrintedCommand) := do
  let text ← String.fromUTF8? bytes
  (← readLines? text).mapM readCommand?

end Document

end Lindenmayer
