import Lindenmayer.Text.LetterCase

/-!
# Turtle operations

The seven things a turtle can be told to do, and the meaning that a character
has by convention when nothing else is said about it.
-/

namespace Lindenmayer

/-- What a symbol makes a turtle do. -/
inductive Operation where
  | draw
  /-- Advance one step without drawing. -/
  | move
  /-- Turn counter-clockwise by the unit angle. -/
  | turnLeft
  /-- Turn clockwise by the unit angle. -/
  | turnRight
  | push
  | pop
  | stay
deriving DecidableEq, Repr, Inhabited

namespace Operation

/-- By convention upper case letters draw, lower case letters move and all else stays. -/
def conventional (char : Char) : Operation :=
  if Text.isUpper char then .draw
  else if Text.isLower char then .move
  else .stay

/-- All operations, in the order in which they are listed to users. -/
def all : List Operation :=
  [draw, move, turnLeft, turnRight, push, pop, stay]

end Operation

end Lindenmayer
