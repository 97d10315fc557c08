import Lindenmayer.Turtle.Call
import Lindenmayer.Turtle.Tracing

/-!
# What a tracing turtle sends

A tracing turtle is moved by calls like a bare pen, and the commands it sends depend
on its pen and on whether a path is open, but never on the sink. This file says so
once for each call; runs of calls are folds of it. What is said about the stream of
commands elsewhere rests on `TracingTurtle.perform_eq` alone.
-/

namespace Lindenmayer

namespace TurtleCall

/-- What a call does to a pen. -/
def onPen (pen : Pen) : TurtleCall → Pen
  | draw => pen.advance
  | jump => pen.advance
  | turnLeft => pen.turnLeft
  | turnRight => pen.turnRight
  | push => pen.push
  | pop => pen.pop
  | stay => pen
  | reset pose => pen.reset pose
  | setUnits units => { pen with units }

/-- Whether a path is open after a call. -/
def leavesOpen (pathOpen : Bool) : TurtleCall → Bool
  | draw => true
  | reset _ => false
  | _ => pathOpen

/-- The commands that a call makes a tracing turtle send. -/
def commands (pen : Pen) (pathOpen : Bool) : TurtleCall → List PathCommand
  | draw =>
    if pathOpen then [.lineTo pen.advance.pose.position]
    else [.newPath pen.pose.position, .lineTo pen.advance.pose.position]
  | jump => [.moveTo pen.advance.pose.position]
  | push => if pathOpen then [.stroke, .newPath pen.pose.position] else []
  | pop =>
    match pen.pop? with
    | none => []
    | some restored =>
      if pathOpen then [.stroke, .newPath restored.pose.position]
      else [.moveTo restored.pose.position]
  | reset _ => if pathOpen then [.stroke] else []
  | _ => []

/-- The commands that calls make a tracing turtle send, one call after the other. -/
def commandsOfAll (pen : Pen) (pathOpen : Bool) : List TurtleCall → List PathCommand
  | [] => []
  | call :: rest =>
    call.commands pen pathOpen ++ commandsOfAll (call.onPen pen) (call.leavesOpen pathOpen) rest

end TurtleCall

namespace TracingTurtle

variable {σ : Type} [PathSink σ]

/-- A call moves the pen, sends its commands and opens or closes the path. -/
theorem perform_eq (turtle : TracingTurtle σ) (call : TurtleCall) :
    call.perform turtle =
      { turtle with
        pen := call.onPen turtle.pen
        sink := PathSink.emitAll turtle.sink (call.commands turtle.pen turtle.pathOpen)
        pathOpen := call.leavesOpen turtle.pathOpen } := by
  rcases turtle with ⟨pen, vocabulary, sink, pathOpen⟩
  cases call with
  | pop =>
      cases restored : pen.pop? <;> cases pathOpen <;>
        simp [TurtleCall.perform, Turtle.pop, TracingTurtle.pop, TurtleCall.onPen, Pen.pop,
          TurtleCall.commands, TurtleCall.leavesOpen, PathSink.emitAll, restored, restartPath,
          emit, position]
  | _ => cases pathOpen <;> rfl

/-- Calls move the pen, send their commands and open or close paths, one after the other. -/
theorem performAll_eq (turtle : TracingTurtle σ) (calls : List TurtleCall) :
    TurtleCall.performAll turtle calls =
      { turtle with
        pen := calls.foldl TurtleCall.onPen turtle.pen
        sink := PathSink.emitAll turtle.sink
          (TurtleCall.commandsOfAll turtle.pen turtle.pathOpen calls)
        pathOpen := calls.foldl TurtleCall.leavesOpen turtle.pathOpen } := by
  induction calls generalizing turtle with
  | nil => rfl
  | cons call rest inductionHypothesis =>
      change TurtleCall.performAll (call.perform turtle) rest = _
      rw [inductionHypothesis, perform_eq]
      simp [TurtleCall.commandsOfAll, PathSink.emitAll]

/-- Finishing sends a last stroke exactly when a path is open. -/
theorem finish_eq (turtle : TracingTurtle σ) :
    turtle.finish =
      PathSink.emitAll turtle.sink (if turtle.pathOpen then [.stroke] else []) := by
  unfold finish closePath
  split <;> rfl

end TracingTurtle

namespace PathSink

/-- An array has received what it held before and the commands sent to it. -/
theorem toList_emitAll (received : Array PathCommand) (commands : List PathCommand) :
    (emitAll received commands).toList = received.toList ++ commands := by
  induction commands generalizing received with
  | nil => simp [emitAll]
  | cons command rest inductionHypothesis =>
      change (emitAll (received.push command) rest).toList = _
      rw [inductionHypothesis]
      simp

end PathSink

end Lindenmayer
