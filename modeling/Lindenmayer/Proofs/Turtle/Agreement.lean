import Lindenmayer.Proofs.Turtle.Movement

/-!
# Dry runs

The silent turtle and the tracing turtle are two implementations of one interface, and
the tracing one does more: it looks at its path before it moves, and it leaves off early
where there is nothing to restore. None of this shows in its pen. Each call moves the two
pens alike, and so does every run of calls.

A rendering asks a turtle for its names and its positions only. Hence a dry run with the
silent turtle comes out as the drawing does: with the same box, or with the same error.
-/

namespace Lindenmayer

/-- Whether turtles of a type show the pens they carry, and calls move them as they move pens. -/
structure CarriesPen {τ : Type} [Turtle τ] (pen : τ → Pen) : Prop where
  pose : ∀ turtle, Turtle.pose turtle = (pen turtle).pose
  units : ∀ turtle, Turtle.units turtle = (pen turtle).units
  perform : ∀ turtle call, pen (TurtleCall.perform turtle call) = call.onPen (pen turtle)

theorem SilentTurtle.carriesPen : CarriesPen SilentTurtle.pen where
  pose _ := rfl
  units _ := rfl
  perform turtle call := by cases call <;> rfl

theorem TracingTurtle.carriesPen {σ : Type} [PathSink σ] :
    CarriesPen (TracingTurtle.pen : TracingTurtle σ → Pen) where
  pose _ := rfl
  units _ := rfl
  perform turtle call := by rw [perform_eq]

namespace CarriesPen

variable {τ τ' : Type} [Turtle τ] [Turtle τ'] {pen : τ → Pen} {pen' : τ' → Pen}

/-- Runs of calls move a turtle as they move its pen. -/
theorem performAll (carries : CarriesPen pen) (turtle : τ) (calls : List TurtleCall) :
    pen (TurtleCall.performAll turtle calls) = calls.foldl TurtleCall.onPen (pen turtle) := by
  induction calls generalizing turtle with
  | nil => rfl
  | cons call rest inductionHypothesis =>
      change pen (TurtleCall.performAll (call.perform turtle) rest) = _
      rw [inductionHypothesis, carries.perform, List.foldl_cons]

theorem applyAll (carries : CarriesPen pen) (turtle : τ) (operations : List Operation) :
    pen (Turtle.applyAll turtle operations) =
      (operations.map TurtleCall.ofOperation).foldl TurtleCall.onPen (pen turtle) := by
  rw [← TurtleCall.performAll_map_ofOperation, carries.performAll]

theorem followsPen (carries : CarriesPen pen) : FollowsPen pen where
  position turtle := by rw [Turtle.position, carries.pose]
  apply turtle operation := by rw [← TurtleCall.perform_ofOperation, carries.perform]

/-- Operations lead turtles with equal pens to points with the same covering box. -/
theorem covering_eq (carries : CarriesPen pen) (carries' : CarriesPen pen') {turtle : τ}
    {other : τ'} (samePen : pen turtle = pen' other) (operations : List Operation) :
    Box.covering (Turtle.position turtle) (Turtle.trail turtle operations) =
      Box.covering (Turtle.position other) (Turtle.trail other operations) := by
  rw [carries.followsPen.position, carries.followsPen.trail_eq, samePen,
    ← carries'.followsPen.position, ← carries'.followsPen.trail_eq]

/-- Turtles with equal pens and names are drawn with alike, with success or without. -/
theorem renderFrom_map_congr (carries : CarriesPen pen) (carries' : CarriesPen pen') {turtle : τ}
    {other : τ'} (samePen : pen turtle = pen' other)
    (sameNames : ∀ name, Turtle.resolve? turtle name = Turtle.resolve? other name)
    {ρ : Type} [RandomSource ρ] (grammar : Grammar) (word : Word) (rounds : Nat) (source : ρ) :
    (grammar.renderFrom turtle word rounds source).map
        (fun drawing => (drawing.box, pen drawing.turtle)) =
      (grammar.renderFrom other word rounds source).map
        (fun drawing => (drawing.box, pen' drawing.turtle)) := by
  simp only [Grammar.renderFrom, Grammar.operationTable_congr sameNames]
  cases grammar.operationTable other with
  | error problem => rfl
  | ok table =>
      simp only [bind, Except.bind, pure, Except.pure, Except.map, Grammar.walk_start]
      rw [carries.covering_eq carries' samePen, carries.applyAll, carries'.applyAll, samePen]

end CarriesPen

/--
A silent and a tracing turtle that agree go on to agree whatever both are told, and with
the same names every rendering comes out the same on both: it fails with one error, or
it succeeds with one box and leaves equal pens.
-/
theorem SilentTurtle.agrees_with_tracing {σ : Type} [PathSink σ] (silent : SilentTurtle)
    (tracing : TracingTurtle σ) (samePose : Turtle.pose silent = Turtle.pose tracing)
    (sameUnits : Turtle.units silent = Turtle.units tracing)
    (sameSaved : silent.pen.saved = tracing.pen.saved) :
    (∀ calls : List TurtleCall,
      let silentAfter := TurtleCall.performAll silent calls
      let tracingAfter := TurtleCall.performAll tracing calls
      Turtle.pose silentAfter = Turtle.pose tracingAfter ∧
        Turtle.units silentAfter = Turtle.units tracingAfter ∧
        silentAfter.pen.saved = tracingAfter.pen.saved) ∧
    ((∀ name, Turtle.resolve? silent name = Turtle.resolve? tracing name) →
      ∀ (grammar : Grammar) (word : Word) (rounds : Int),
        (grammar.render silent word rounds).map
            (fun drawing => (drawing.box, drawing.turtle.pen)) =
          (grammar.render tracing word rounds).map
            (fun drawing => (drawing.box, drawing.turtle.pen))) := by
  have samePen : silent.pen = tracing.pen := by
    rw [SilentTurtle.carriesPen.pose, TracingTurtle.carriesPen.pose] at samePose
    rw [SilentTurtle.carriesPen.units, TracingTurtle.carriesPen.units] at sameUnits
    exact Pen.ext samePose sameUnits sameSaved
  constructor
  · intro calls silentAfter tracingAfter
    have stillSame : silentAfter.pen = tracingAfter.pen := by
      rw [SilentTurtle.carriesPen.performAll, TracingTurtle.carriesPen.performAll, samePen]
    exact ⟨congrArg Pen.pose stillSame, congrArg Pen.units stillSame, congrArg Pen.saved stillSame⟩
  · intro sameNames grammar word rounds
    by_cases negative : rounds < 0
    · simp only [Grammar.render, if_pos negative, Except.map]
    · simp only [Grammar.render, if_neg negative]
      exact SilentTurtle.carriesPen.renderFrom_map_congr TracingTurtle.carriesPen samePen sameNames
        grammar word rounds.toNat grammar.randomStream

/-- A pen somewhere on its way, with one pose to return to. -/
def Pen.underway : Pen := ⟨⟨⟨2.0, -3.5⟩, 60.0⟩, ⟨0.5, 25.0⟩, [.standard]⟩

/-- Calls that return once more often than poses have been saved, and begin anew after that. -/
def TurtleCall.detour : List TurtleCall :=
  [.draw, .push, .turnLeft, .jump, .pop, .setUnits ⟨1.5, 90.0⟩, .pop, .pop, .draw,
    .reset ⟨⟨1.0, 1.0⟩, 0.0⟩, .turnRight, .stay, .push]

theorem SilentTurtle.agrees_with_tracing_detour :
    let silent : SilentTurtle := ⟨.underway, .standard⟩
    let tracing : TracingTurtle (Array PathCommand) :=
      ⟨.underway, .standard, #[.newPath .origin], true⟩
    let silentAfter := TurtleCall.performAll silent TurtleCall.detour
    let tracingAfter := TurtleCall.performAll tracing TurtleCall.detour
    Turtle.pose silent = Turtle.pose tracing ∧ Turtle.units silent = Turtle.units tracing ∧
      silent.pen.saved = tracing.pen.saved ∧
      (∀ name, Turtle.resolve? silent name = Turtle.resolve? tracing name) ∧
      Turtle.pose silentAfter = Turtle.pose tracingAfter ∧
      Turtle.units silentAfter = Turtle.units tracingAfter ∧
      silentAfter.pen.saved = tracingAfter.pen.saved ∧
      ((Grammar.ofEdits Grammar.branchingPlant).render silent [⟨3, 'F'⟩] 4).map
          (fun drawing => (drawing.box, drawing.turtle.pen)) =
        ((Grammar.ofEdits Grammar.branchingPlant).render tracing [⟨3, 'F'⟩] 4).map
          (fun drawing => (drawing.box, drawing.turtle.pen)) := by
  intro silent tracing silentAfter tracingAfter
  have sameNames : ∀ name, Turtle.resolve? silent name = Turtle.resolve? tracing name :=
    fun _ => rfl
  have agrees := SilentTurtle.agrees_with_tracing silent tracing rfl rfl rfl
  rcases agrees.1 TurtleCall.detour with ⟨samePose, sameUnits, sameSaved⟩
  exact ⟨rfl, rfl, rfl, sameNames, samePose, sameUnits, sameSaved, agrees.2 sameNames _ _ 4⟩

end Lindenmayer
