import Lindenmayer.Turtle.Basic
import Lindenmayer.Turtle.Vocabulary

/-!
# Itineraries

A turtle whose way is laid down in advance: it advances to the next point of a list,
whatever its heading and units are, and stays where it is when the points have run
out. Such a turtle serves to visit any points one wants.
-/

namespace Lindenmayer

structure Itinerary where
  here : Point
  ahead : List Point

namespace Itinerary

def advance : Itinerary → Itinerary
  | ⟨here, []⟩ => ⟨here, []⟩
  | ⟨_, next :: rest⟩ => ⟨next, rest⟩

instance : Turtle Itinerary where
  draw := advance
  jump := advance
  turnLeft := id
  turnRight := id
  push := id
  pop := id
  reset itinerary pose := { itinerary with here := pose.position }
  pose itinerary := { Pose.standard with position := itinerary.here }
  setUnits itinerary _ := itinerary
  units _ := .standard
  resolve? _ := Vocabulary.standard.resolve?

end Itinerary

end Lindenmayer
