import Lindenmayer.Geometry.Point

/-!
# Path commands

The vocabulary of vector graphics that drawings are written in, and the places
that such commands can be sent to.
-/

namespace Lindenmayer

/-- A primitive of vector graphics. -/
inductive PathCommand where
  | newPath (point : Point)
  | lineTo (point : Point)
  /-- Change the current point without drawing. -/
  | moveTo (point : Point)
  | stroke
deriving Inhabited

/-- The points that a command names. -/
def PathCommand.points : PathCommand → List Point
  | newPath point => [point]
  | lineTo point => [point]
  | moveTo point => [point]
  | stroke => []

/-- A place that path commands are sent to, one at a time. -/
class PathSink (σ : Type) where
  emit : σ → PathCommand → σ

namespace PathSink

def emitAll {σ : Type} [PathSink σ] (sink : σ) (commands : List PathCommand) : σ :=
  commands.foldl emit sink

/-- An array collects the commands sent to it. -/
instance : PathSink (Array PathCommand) := ⟨Array.push⟩

end PathSink

end Lindenmayer
