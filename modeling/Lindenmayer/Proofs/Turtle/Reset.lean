import Lindenmayer.Proofs.Turtle.Emission

/-!
# Resetting a turtle

What a tracing turtle will do is decided by its pen and by whether a path is open. Its sink has
no part in this, nor have the names it knows. Turtles that go alike in this sense send the same
commands whatever they are told, and look the same after each call. This would not follow from
their looking the same now, since saved poses are not seen before they are restored.

After a reset the pose is the one given, no pose is saved and no path is open. Only the units
are left from before, so two turtles with the same units go alike once they are reset, whatever
has happened to either.
-/

namespace Lindenmayer

open TurtleCall

theorem TurtleCall.onPen_pop_of_saved {pen : Pen} {pose : Pose} {earlier : List Pose}
    (saved : pen.saved = pose :: earlier) :
    onPen pen .pop = { pen with pose, saved := earlier } := by
  simp only [onPen, Pen.pop, Pen.pop?, saved, Option.getD_some]

/-- As many saved poses are the same if they come out the same one by one. -/
theorem Pen.saved_eq_of_pops {pen other : Pen} (sameDepth : pen.depth = other.depth)
    (samePoses : ∀ count, ((List.replicate count .pop).foldl onPen pen).pose =
      ((List.replicate count .pop).foldl onPen other).pose) :
    pen.saved = other.saved := by
  unfold Pen.depth at sameDepth
  induction saved : pen.saved generalizing pen other with
  | nil =>
      rw [saved] at sameDepth
      exact (List.length_eq_zero_iff.mp sameDepth.symm).symm
  | cons pose earlier inductionHypothesis =>
      rcases otherSaved : other.saved with _ | ⟨otherPose, otherEarlier⟩
      · simp [saved, otherSaved] at sameDepth
      · have popped := onPen_pop_of_saved saved
        have otherPopped := onPen_pop_of_saved otherSaved
        have latest : (onPen pen .pop).pose = (onPen other .pop).pose := samePoses 1
        have rest : earlier = (onPen other .pop).saved := by
          refine inductionHypothesis ?_ (fun count => samePoses (count + 1)) ?_
          · simpa [popped, otherPopped, saved, otherSaved] using sameDepth
          · rw [popped]
        rw [popped, otherPopped] at latest
        rw [otherPopped] at rest
        exact List.cons_eq_cons.mpr ⟨latest, rest⟩

namespace TracingTurtle

variable {σ ς : Type}

/-- Whether all that two turtles have yet to do is decided alike. -/
structure GoesLike (turtle : TracingTurtle σ) (other : TracingTurtle ς) : Prop where
  pen : turtle.pen = other.pen
  pathOpen : turtle.pathOpen = other.pathOpen

variable [PathSink σ] [PathSink ς]

section GoesLike

variable {turtle : TracingTurtle σ} {other : TracingTurtle ς}

theorem GoesLike.appearance_eq (alike : turtle.GoesLike other) :
    turtle.appearance = other.appearance := by
  have same : ∀ {σ : Type} [PathSink σ] (turtle : TracingTurtle σ), turtle.appearance =
      ⟨turtle.pen.pose, turtle.pen.units, turtle.pen.depth, turtle.pathOpen⟩ := fun _ => rfl
  rw [same, same, alike.pen, alike.pathOpen]

theorem GoesLike.performAll (alike : turtle.GoesLike other) (calls : List TurtleCall) :
    (performAll turtle calls).GoesLike (performAll other calls) := by
  rw [performAll_eq, performAll_eq]
  constructor
  · simp only [alike.pen]
  · simp only [alike.pathOpen]

/-- Turtles go alike just if they can never be told apart by looking at them. -/
theorem goesLike_iff_appearance_eq :
    turtle.GoesLike other ↔ ∀ calls : List TurtleCall,
      (performAll turtle calls).appearance = (performAll other calls).appearance := by
  constructor
  · intro alike calls
    exact (alike.performAll calls).appearance_eq
  · intro look
    have now : turtle.appearance = other.appearance := look []
    have samePose : turtle.pen.pose = other.pen.pose := congrArg Appearance.pose now
    have sameUnits : turtle.pen.units = other.pen.units := congrArg Appearance.units now
    have sameSaved : turtle.pen.saved = other.pen.saved := by
      refine Pen.saved_eq_of_pops (congrArg Appearance.depth now) ?_
      intro count
      have restored := congrArg Appearance.pose (look (List.replicate count .pop))
      rwa [performAll_eq, performAll_eq] at restored
    exact ⟨Pen.ext samePose sameUnits sameSaved, congrArg Appearance.pathOpen now⟩

variable {recorder : TracingTurtle (Array PathCommand)}

/-- What an array has received from one turtle is sent by those that go like it. -/
theorem GoesLike.sink_performAll (alike : turtle.GoesLike recorder)
    (nothingSent : recorder.sink = #[]) (calls : List TurtleCall) :
    (TurtleCall.performAll turtle calls).sink =
      PathSink.emitAll turtle.sink (TurtleCall.performAll recorder calls).sink.toList := by
  rw [performAll_eq, performAll_eq, PathSink.toList_emitAll, nothingSent, alike.pen,
    alike.pathOpen]
  rfl

theorem GoesLike.finish_performAll (alike : turtle.GoesLike recorder)
    (nothingSent : recorder.sink = #[]) (calls : List TurtleCall) :
    (TurtleCall.performAll turtle calls).finish =
      PathSink.emitAll turtle.sink (TurtleCall.performAll recorder calls).finish.toList := by
  rw [finish_eq, finish_eq, PathSink.toList_emitAll, alike.sink_performAll nothingSent,
    (alike.performAll calls).pathOpen]
  simp only [PathSink.emitAll, List.foldl_append]

end GoesLike

/-- A reset paints the open path, and of the past it leaves only the units. -/
theorem reset_eq (turtle : TracingTurtle σ) (pose : Pose) :
    Turtle.reset turtle pose =
      { turtle with
        pen := ⟨pose, Turtle.units turtle, []⟩
        sink := PathSink.emitAll turtle.sink (if turtle.pathOpen then [.stroke] else [])
        pathOpen := false } :=
  perform_eq turtle (.reset pose)

theorem goesLike_reset {turtle : TracingTurtle σ} {other : TracingTurtle ς}
    (sameUnits : Turtle.units turtle = Turtle.units other) (pose : Pose) :
    (Turtle.reset turtle pose).GoesLike (Turtle.reset other pose) := by
  rw [reset_eq, reset_eq, sameUnits]
  exact ⟨rfl, rfl⟩

/--
A reset makes a turtle forget. Two turtles with any sinks and names are told whatever it be, so
that they end with the same units, and are reset to one pose. After any further calls they look the
same, and like a fresh turtle that has been given these units and reset to this pose. What they have
sent by then is the same too, namely what that turtle has sent, and so it is when they are finished.
The resets themselves paint a path that is open, and send nothing if none is.
-/
theorem reset_forgets (turtle : TracingTurtle σ) (other : TracingTurtle ς)
    (past otherPast : List TurtleCall) (pose : Pose)
    (sameUnits : Turtle.units (performAll turtle past) = Turtle.units (performAll other otherPast)) :
    let before := performAll turtle past
    let otherBefore := performAll other otherPast
    let after := Turtle.reset before pose
    let otherAfter := Turtle.reset otherBefore pose
    let unused := Turtle.setUnits (standard (#[] : Array PathCommand)) (Turtle.units before)
    let fresh := Turtle.reset unused pose
    after.sink = PathSink.emitAll before.sink (if before.pathOpen then [.stroke] else []) ∧
      otherAfter.sink =
        PathSink.emitAll otherBefore.sink (if otherBefore.pathOpen then [.stroke] else []) ∧
      fresh.sink = #[] ∧
      ∀ calls : List TurtleCall,
        let now := performAll after calls
        let otherNow := performAll otherAfter calls
        let freshNow := performAll fresh calls
        now.appearance = freshNow.appearance ∧ otherNow.appearance = freshNow.appearance ∧
          now.sink = PathSink.emitAll after.sink freshNow.sink.toList ∧
          otherNow.sink = PathSink.emitAll otherAfter.sink freshNow.sink.toList ∧
          now.finish = PathSink.emitAll after.sink freshNow.finish.toList ∧
          otherNow.finish = PathSink.emitAll otherAfter.sink freshNow.finish.toList := by
  intro before otherBefore after otherAfter unused fresh
  have unitsGiven : Turtle.units before = Turtle.units unused := rfl
  have alike : after.GoesLike fresh := goesLike_reset unitsGiven pose
  have otherAlike : otherAfter.GoesLike fresh :=
    goesLike_reset (sameUnits.symm.trans unitsGiven) pose
  have nothingSent : fresh.sink = #[] := rfl
  refine ⟨congrArg sink (reset_eq before pose), congrArg sink (reset_eq otherBefore pose),
    nothingSent, ?_⟩
  intro calls now otherNow freshNow
  exact ⟨(alike.performAll calls).appearance_eq, (otherAlike.performAll calls).appearance_eq,
    alike.sink_performAll nothingSent calls, otherAlike.sink_performAll nothingSent calls,
    alike.finish_performAll nothingSent calls, otherAlike.finish_performAll nothingSent calls⟩

/-- A turtle in the midst of a path, with two poses to return to. -/
def unfinished : List TurtleCall :=
  [.draw, .push, .setUnits ⟨2.0, 60.0⟩, .turnLeft, .push, .draw]

/-- A turtle without a path, with one pose to return to and the same units. -/
def strayed : List TurtleCall :=
  [.setUnits ⟨2.0, 60.0⟩, .push, .jump, .reset .standard, .pop, .turnRight, .push]

/-- The pose that is restored after a reset has been saved after it. -/
theorem reset_forgets_unfinished :
    let before := performAll (standard (#[] : Array PathCommand)) unfinished
    let otherBefore := performAll (standard (#[.stroke] : Array PathCommand)) strayed
    let after := Turtle.reset before .standard
    let otherAfter := Turtle.reset otherBefore .standard
    let calls := [.pop, .draw, .push, .turnLeft, .jump, .pop, .pop, .draw]
    let now := performAll after calls
    let otherNow := performAll otherAfter calls
    Turtle.units before = Turtle.units otherBefore ∧
      before.pathOpen = true ∧ before.pen.depth = 2 ∧ after.sink = before.sink.push .stroke ∧
      otherBefore.pathOpen = false ∧ otherBefore.pen.depth = 1 ∧
      otherAfter.sink = otherBefore.sink ∧
      now.appearance = otherNow.appearance ∧
      ∃ commands, now.sink = PathSink.emitAll after.sink commands ∧
        otherNow.sink = PathSink.emitAll otherAfter.sink commands := by
  intro before otherBefore after otherAfter calls now otherNow
  have units : Turtle.units before = ⟨2.0, 60.0⟩ := rfl
  have otherUnits : Turtle.units otherBefore = ⟨2.0, 60.0⟩ := rfl
  have sameUnits : Turtle.units before = Turtle.units otherBefore := units.trans otherUnits.symm
  have opened : before.pathOpen = true := rfl
  have closed : otherBefore.pathOpen = false := rfl
  have forgets := reset_forgets (standard (#[] : Array PathCommand))
    (standard (#[.stroke] : Array PathCommand)) unfinished strayed .standard sameUnits
  rcases forgets with ⟨painted, otherPainted, _, further⟩
  rcases further calls with ⟨look, otherLook, sent, otherSent, _⟩
  refine ⟨sameUnits, opened, rfl, painted, closed, rfl, otherPainted, look.trans otherLook.symm, ?_⟩
  exact ⟨_, sent, otherSent⟩

end TracingTurtle

end Lindenmayer
