import Lindenmayer.Turtle.Call

/-!
# The recording turtle

A turtle that passes every call on to another turtle and writes it down. Being
told to stay is not worth a note.
-/

namespace Lindenmayer

/-- A turtle together with the calls it has received, in order. -/
structure RecordingTurtle (τ : Type) where
  turtle : τ
  calls : Array TurtleCall

namespace RecordingTurtle

variable {τ : Type}

def ofTurtle (turtle : τ) : RecordingTurtle τ := ⟨turtle, #[]⟩

variable [Turtle τ]

/-- Passes a call on and writes it down. -/
def note (recorder : RecordingTurtle τ) (call : TurtleCall) : RecordingTurtle τ :=
  ⟨call.perform recorder.turtle, recorder.calls.push call⟩

instance : Turtle (RecordingTurtle τ) where
  draw recorder := recorder.note .draw
  jump recorder := recorder.note .jump
  turnLeft recorder := recorder.note .turnLeft
  turnRight recorder := recorder.note .turnRight
  push recorder := recorder.note .push
  pop recorder := recorder.note .pop
  stay recorder := { recorder with turtle := Turtle.stay recorder.turtle }
  reset recorder pose := recorder.note (.reset pose)
  pose recorder := Turtle.pose recorder.turtle
  setUnits recorder units := recorder.note (.setUnits units)
  units recorder := Turtle.units recorder.turtle
  resolve? recorder := Turtle.resolve? recorder.turtle

end RecordingTurtle

end Lindenmayer
