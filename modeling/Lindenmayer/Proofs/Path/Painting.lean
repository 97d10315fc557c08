import Lindenmayer.Proofs.Turtle.Emission
import Lindenmayer.Turtle.Drawn

/-!
# The painted segments are the drawn ones

The commands that a tracing turtle sends are followed here on a canvas. Whatever the
turtle is told, every command has a meaning, and once the turtle is finished the
canvas shows the segments that the turtle was asked to draw, in order, each once.

The invariant relates the canvas to the pen and to the path flag. While a path is
open the canvas goes on from where the pen is; while none is open nothing waits to be
painted, so that beginning a new path throws nothing away.
-/

namespace Lindenmayer

namespace Canvas

/-- The segments on a canvas, painted ones before waiting ones. -/
def segments (canvas : Canvas) : List Segment :=
  canvas.painted ++ canvas.path

/-- Whether a canvas is up to date with a pen and with whether a path is open. -/
structure KeepsUpWith (canvas : Canvas) (pen : Pen) (pathOpen : Bool) : Prop where
  goesOn : pathOpen = true → canvas.current? = some pen.pose.position
  nothingWaits : pathOpen = false → canvas.path = []

theorem keepsUpWith_blank (pen : Pen) : blank.KeepsUpWith pen false where
  goesOn impossible := by simp at impossible
  nothingWaits _ := rfl

/-- Painting what waits and going on from a point. -/
theorem followAll?_stroke_newPath (canvas : Canvas) (point : Point) :
    canvas.followAll? [.stroke, .newPath point] =
      some { canvas with current? := some point, path := [], painted := canvas.segments } := by
  simp [followAll?, follow?, segments]

end Canvas

namespace TurtleCall

variable {τ : Type} [Turtle τ]

theorem segments_cons (turtle : τ) (call : TurtleCall) (rest : List TurtleCall) :
    segments turtle (call :: rest) =
      segments turtle [call] ++ segments (call.perform turtle) rest := by
  cases call <;> simp [segments, perform]

end TurtleCall

namespace TracingTurtle

variable {σ : Type} [PathSink σ]

theorem segments_draw (turtle : TracingTurtle σ) :
    TurtleCall.segments turtle [.draw] =
      [⟨turtle.pen.pose.position, turtle.pen.advance.pose.position⟩] := by
  have moved : (Turtle.draw turtle).pen = turtle.pen.advance :=
    congrArg TracingTurtle.pen (turtle.perform_eq .draw)
  simp [TurtleCall.segments, Turtle.position, Turtle.pose, moved]

/--
One call: its commands can be followed, nothing is thrown away, and the canvas has
the segment of a draw call in addition.
-/
theorem exists_followAll?_commands (turtle : TracingTurtle σ) (call : TurtleCall)
    {canvas : Canvas} (keepsUp : canvas.KeepsUpWith turtle.pen turtle.pathOpen) :
    ∃ next, canvas.followAll? (call.commands turtle.pen turtle.pathOpen) = some next ∧
      next.KeepsUpWith (call.onPen turtle.pen) (call.leavesOpen turtle.pathOpen) ∧
      next.lost = canvas.lost ∧
      next.segments = canvas.segments ++ TurtleCall.segments turtle [call] := by
  have drawn := turtle.segments_draw
  rcases turtle with ⟨pen, vocabulary, sink, pathOpen⟩
  rcases keepsUp with ⟨goesOn, nothingWaits⟩
  cases call with
  | draw =>
      rw [drawn]
      cases pathOpen with
      | true =>
          have current : canvas.current? = some pen.pose.position := goesOn rfl
          refine ⟨{ canvas with
            current? := some pen.advance.pose.position
            path := canvas.path ++ [⟨pen.pose.position, pen.advance.pose.position⟩] },
            ?_, ⟨fun _ => rfl, ?_⟩, rfl, ?_⟩
          · simp [TurtleCall.commands, Canvas.followAll?, Canvas.follow?, current]
          · simp [TurtleCall.leavesOpen]
          · simp [Canvas.segments]
      | false =>
          have empty : canvas.path = [] := nothingWaits rfl
          refine ⟨{ canvas with
            current? := some pen.advance.pose.position
            path := [⟨pen.pose.position, pen.advance.pose.position⟩] },
            ?_, ⟨fun _ => rfl, ?_⟩, rfl, ?_⟩
          · simp [TurtleCall.commands, Canvas.followAll?, Canvas.follow?, empty]
          · simp [TurtleCall.leavesOpen]
          · simp [Canvas.segments, empty]
  | jump =>
      refine ⟨{ canvas with current? := some pen.advance.pose.position }, rfl,
        ⟨fun _ => rfl, nothingWaits⟩, rfl, ?_⟩
      simp [Canvas.segments, TurtleCall.segments]
  | push =>
      cases pathOpen with
      | true =>
          refine ⟨_, canvas.followAll?_stroke_newPath pen.pose.position, ⟨fun _ => rfl, ?_⟩, rfl, ?_⟩
          · simp [TurtleCall.leavesOpen]
          · simp [Canvas.segments, TurtleCall.segments]
      | false => exact ⟨canvas, rfl, ⟨goesOn, nothingWaits⟩, rfl, by simp [TurtleCall.segments]⟩
  | pop =>
      simp only [TurtleCall.commands, TurtleCall.onPen, TurtleCall.leavesOpen, Pen.pop]
      cases popped : pen.pop? with
      | none => exact ⟨canvas, rfl, ⟨goesOn, nothingWaits⟩, rfl, by simp [TurtleCall.segments]⟩
      | some restored =>
          cases pathOpen with
          | true =>
              refine ⟨_, canvas.followAll?_stroke_newPath restored.pose.position,
                ⟨fun _ => rfl, ?_⟩, rfl, ?_⟩
              · simp
              · simp [Canvas.segments, TurtleCall.segments]
          | false =>
              refine ⟨{ canvas with current? := some restored.pose.position }, rfl,
                ⟨fun _ => rfl, nothingWaits⟩, rfl, ?_⟩
              simp [Canvas.segments, TurtleCall.segments]
  | reset pose =>
      cases pathOpen with
      | true =>
          refine ⟨{ canvas with current? := none, path := [], painted := canvas.segments }, rfl,
            ⟨?_, fun _ => rfl⟩, rfl, ?_⟩
          · simp [TurtleCall.leavesOpen]
          · simp [Canvas.segments, TurtleCall.segments]
      | false =>
          refine ⟨canvas, rfl, ⟨?_, nothingWaits⟩, rfl, by simp [TurtleCall.segments]⟩
          simp [TurtleCall.leavesOpen]
  | _ => exact ⟨canvas, rfl, ⟨goesOn, nothingWaits⟩, rfl, by simp [TurtleCall.segments]⟩

/-- Calls, one after the other. -/
theorem exists_followAll?_commandsOfAll (turtle : TracingTurtle σ) (calls : List TurtleCall)
    {canvas : Canvas} (keepsUp : canvas.KeepsUpWith turtle.pen turtle.pathOpen) :
    ∃ next,
      canvas.followAll? (TurtleCall.commandsOfAll turtle.pen turtle.pathOpen calls) = some next ∧
      next.KeepsUpWith (calls.foldl TurtleCall.onPen turtle.pen)
        (calls.foldl TurtleCall.leavesOpen turtle.pathOpen) ∧
      next.lost = canvas.lost ∧
      next.segments = canvas.segments ++ TurtleCall.segments turtle calls := by
  induction calls generalizing turtle canvas with
  | nil => exact ⟨canvas, rfl, keepsUp, rfl, by simp [TurtleCall.segments]⟩
  | cons call rest inductionHypothesis =>
      rcases turtle.exists_followAll?_commands call keepsUp with
        ⟨middle, followed, middleKeepsUp, middleLost, middleSegments⟩
      have performed := turtle.perform_eq call
      have ready : middle.KeepsUpWith (call.perform turtle).pen (call.perform turtle).pathOpen := by
        rwa [performed]
      rcases inductionHypothesis (call.perform turtle) ready with
        ⟨next, restFollowed, nextKeepsUp, nextLost, nextSegments⟩
      refine ⟨next, ?_, ?_, nextLost.trans middleLost, ?_⟩
      · rw [TurtleCall.commandsOfAll, Canvas.followAll?_append, followed]
        rwa [performed] at restFollowed
      · rwa [performed] at nextKeepsUp
      · rw [nextSegments, middleSegments, TurtleCall.segments_cons turtle call rest,
          List.append_assoc]

/--
Finishing after calls from a fresh turtle: no command is without meaning, no segment
is left waiting or thrown away, and the painted segments are, in order and once each,
those from the position before to the position after each draw call.
-/
theorem painted_eq_segments (vocabulary : Vocabulary) (calls : List TurtleCall) :
    let fresh : TracingTurtle (Array PathCommand) := { standard #[] with vocabulary }
    ∃ canvas,
      Canvas.blank.followAll? (TurtleCall.performAll fresh calls).finish.toList = some canvas ∧
      canvas.path = [] ∧ canvas.lost = [] ∧
      canvas.painted = TurtleCall.segments fresh calls := by
  intro fresh
  rcases fresh.exists_followAll?_commandsOfAll calls (Canvas.keepsUpWith_blank fresh.pen) with
    ⟨canvas, followed, keepsUp, lost, segments⟩
  have sent : (TurtleCall.performAll fresh calls).finish.toList =
      TurtleCall.commandsOfAll fresh.pen fresh.pathOpen calls ++
        if calls.foldl TurtleCall.leavesOpen fresh.pathOpen then [.stroke] else [] := by
    rw [finish_eq, performAll_eq, PathSink.toList_emitAll, PathSink.toList_emitAll]
    rfl
  rw [sent, Canvas.followAll?_append, followed, Option.bind_some]
  split
  · refine ⟨{ canvas with current? := none, path := [], painted := canvas.segments },
      rfl, rfl, lost, ?_⟩
    exact segments.trans (List.nil_append _)
  · rename_i closed
    have nothingWaits := keepsUp.nothingWaits (by simpa using closed)
    refine ⟨canvas, rfl, nothingWaits, lost, ?_⟩
    simpa [Canvas.segments, nothingWaits, Canvas.blank] using segments

end TracingTurtle

end Lindenmayer
