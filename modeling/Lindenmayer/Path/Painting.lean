import Lindenmayer.Path.Command

/-!
# What path commands paint

The meaning of a list of path commands: a canvas holds the segments painted so
far, the path under construction, and the current point, which a new canvas does
not have. A straight segment needs a current point to begin at, and this is the
only way in which a list of commands can be without meaning. Beginning a new path
throws away the one under construction; the canvas remembers what was lost.
-/

namespace Lindenmayer

structure Segment where
  start : Point
  finish : Point

/-- What path commands have led to. -/
structure Canvas where
  /-- Where the next segment begins. -/
  current? : Option Point
  path : List Segment
  painted : List Segment
  /-- The segments thrown away, in order. -/
  lost : List Segment

namespace Canvas

def blank : Canvas := ⟨none, [], [], []⟩

/-- Follows a path command, if it has a meaning here. -/
def follow? (canvas : Canvas) : PathCommand → Option Canvas
  | .newPath point =>
    some { canvas with current? := some point, path := [], lost := canvas.lost ++ canvas.path }
  | .moveTo point => some { canvas with current? := some point }
  | .lineTo point =>
    canvas.current?.map fun start =>
      { canvas with current? := some point, path := canvas.path ++ [⟨start, point⟩] }
  | .stroke =>
    some { canvas with current? := none, path := [], painted := canvas.painted ++ canvas.path }

def followAll? (canvas : Canvas) (commands : List PathCommand) : Option Canvas :=
  commands.foldlM follow? canvas

theorem followAll?_append (canvas : Canvas) (first second : List PathCommand) :
    canvas.followAll? (first ++ second) =
      (canvas.followAll? first).bind fun canvas => canvas.followAll? second :=
  List.foldlM_append

end Canvas

end Lindenmayer
