import Lindenmayer.Turtle.Pose

/-!
# Pens

A pen is the state every turtle of this library is built on: the current pose,
the units, and the poses saved for later. Poses are restored in the opposite
order of saving. Restoring without a saved pose changes nothing.
-/

namespace Lindenmayer

/-- The current pose, the units and the saved poses, the latest first. -/
@[ext]
structure Pen where
  pose : Pose
  units : Units
  saved : List Pose
deriving Inhabited

namespace Pen

def standard : Pen := ⟨.standard, .standard, []⟩

def advance (pen : Pen) : Pen :=
  { pen with pose := pen.pose.advance pen.units.step }

def turnLeft (pen : Pen) : Pen :=
  { pen with pose := pen.pose.rotate pen.units.angle }

def turnRight (pen : Pen) : Pen :=
  { pen with pose := pen.pose.rotate (-pen.units.angle) }

def push (pen : Pen) : Pen :=
  { pen with saved := pen.pose :: pen.saved }

def pop? (pen : Pen) : Option Pen :=
  match pen.saved with
  | [] => none
  | pose :: earlier => some { pen with pose, saved := earlier }

/-- Restores the pose saved last; without a saved pose nothing changes. -/
def pop (pen : Pen) : Pen :=
  pen.pop?.getD pen

/-- Takes up a pose and forgets the saved ones. -/
def reset (pen : Pen) (pose : Pose) : Pen :=
  { pen with pose, saved := [] }

def depth (pen : Pen) : Nat :=
  pen.saved.length

@[simp]
theorem pop?_push (pen : Pen) : pen.push.pop? = some pen := rfl

theorem pop?_eq_none_iff (pen : Pen) : pen.pop? = none ↔ pen.saved = [] := by
  cases saved : pen.saved <;> simp [pop?, saved]

end Pen

end Lindenmayer
