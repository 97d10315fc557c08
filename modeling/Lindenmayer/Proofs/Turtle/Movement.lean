import Lindenmayer.Proofs.Grammar.Streaming
import Lindenmayer.Proofs.Turtle.Emission

/-!
# Where turtles go

A rendering asks a turtle for nothing but its vocabulary and its position. Turtles with
the same vocabulary are therefore made to perform the same operations; and a turtle that
goes where a pen goes visits the points that the pen visits, whatever else it may do on
its way. The silent and the tracing turtle are such turtles.
-/

namespace Lindenmayer

/-- The positions of a pen after each of a list of operations. -/
def Pen.trail (pen : Pen) : List Operation → List Point
  | [] => []
  | operation :: rest =>
    ((TurtleCall.ofOperation operation).onPen pen).pose.position ::
      ((TurtleCall.ofOperation operation).onPen pen).trail rest

/-- Whether the turtles of a type go where the pens that they carry go. -/
structure FollowsPen {τ : Type} [Turtle τ] (pen : τ → Pen) : Prop where
  position : ∀ turtle, Turtle.position turtle = (pen turtle).pose.position
  apply : ∀ turtle operation,
    pen (Turtle.apply turtle operation) = (TurtleCall.ofOperation operation).onPen (pen turtle)

theorem FollowsPen.trail_eq {τ : Type} [Turtle τ] {pen : τ → Pen} (follows : FollowsPen pen)
    (turtle : τ) (operations : List Operation) :
    Turtle.trail turtle operations = (pen turtle).trail operations := by
  induction operations generalizing turtle with
  | nil => rfl
  | cons operation rest inductionHypothesis =>
      rw [Turtle.trail, Pen.trail, follows.position, inductionHypothesis, follows.apply]

theorem SilentTurtle.followsPen : FollowsPen SilentTurtle.pen where
  position _ := rfl
  apply turtle operation := by cases operation <;> rfl

theorem TracingTurtle.followsPen {σ : Type} [PathSink σ] :
    FollowsPen (TracingTurtle.pen : TracingTurtle σ → Pen) where
  position _ := rfl
  apply turtle operation := by
    rw [← TurtleCall.perform_ofOperation, TracingTurtle.perform_eq]

theorem TurtleCall.performAll_map_ofOperation {τ : Type} [Turtle τ] (turtle : τ)
    (operations : List Operation) :
    performAll turtle (operations.map ofOperation) = Turtle.applyAll turtle operations := by
  rw [performAll, List.foldl_map, Turtle.applyAll]
  simp only [perform_ofOperation]

section Commands

variable {visited : Point → Prop} {pen : Pen} {pathOpen : Bool}

/-- Whether a pen is at a visited point and can only return to visited points. -/
structure Pen.StaysAmong (pen : Pen) (visited : Point → Prop) : Prop where
  here : visited pen.pose.position
  saved : ∀ pose ∈ pen.saved, visited pose.position

/-- A call that leads to a visited point names no others, and the pen stays among them. -/
theorem Pen.StaysAmong.onPen (among : pen.StaysAmong visited) (call : TurtleCall)
    (next : visited (call.onPen pen).pose.position) :
    (call.onPen pen).StaysAmong visited ∧
      ∀ command ∈ call.commands pen pathOpen, ∀ point ∈ command.points, visited point := by
  rcases among with ⟨here, saved⟩
  cases call with
  | draw =>
      change visited pen.advance.pose.position at next
      refine ⟨⟨next, saved⟩, ?_⟩
      cases pathOpen <;> simp [TurtleCall.commands, PathCommand.points, here, next]
  | jump =>
      change visited pen.advance.pose.position at next
      refine ⟨⟨next, saved⟩, ?_⟩
      simp [TurtleCall.commands, PathCommand.points, next]
  | push =>
      refine ⟨⟨next, List.forall_mem_cons.mpr ⟨here, saved⟩⟩, ?_⟩
      cases pathOpen <;> simp [TurtleCall.commands, PathCommand.points, here]
  | pop =>
      cases poses : pen.saved with
      | nil =>
          have nothing : pen.pop? = none := pen.pop?_eq_none_iff.mpr poses
          simp only [TurtleCall.onPen, Pen.pop, TurtleCall.commands, nothing]
          exact ⟨⟨here, saved⟩, by simp⟩
      | cons pose earlier =>
          have restored : pen.pop? = some { pen with pose, saved := earlier } := by
            simp [Pen.pop?, poses]
          simp only [TurtleCall.onPen, Pen.pop, TurtleCall.commands, restored] at next ⊢
          rw [poses] at saved
          refine ⟨⟨next, fun other otherMem => saved other (List.mem_cons_of_mem _ otherMem)⟩, ?_⟩
          cases pathOpen <;> simpa [PathCommand.points] using next
  | reset pose =>
      refine ⟨⟨next, by simp [TurtleCall.onPen, Pen.reset]⟩, ?_⟩
      cases pathOpen <;> simp [TurtleCall.commands, PathCommand.points]
  | _ => exact ⟨⟨next, saved⟩, by simp [TurtleCall.commands]⟩

/-- Operations that lead to visited points make no command name others. -/
theorem Pen.StaysAmong.commandsOfAll (among : pen.StaysAmong visited) (pathOpen : Bool)
    {operations : List Operation} (trail : ∀ point ∈ pen.trail operations, visited point) :
    ∀ command ∈ TurtleCall.commandsOfAll pen pathOpen (operations.map TurtleCall.ofOperation),
      ∀ point ∈ command.points, visited point := by
  induction operations generalizing pen pathOpen with
  | nil => simp [TurtleCall.commandsOfAll]
  | cons operation rest inductionHypothesis =>
      rw [Pen.trail, List.forall_mem_cons] at trail
      rcases among.onPen (TurtleCall.ofOperation operation) trail.1 with ⟨still, named⟩
      intro command commandMem
      rcases List.mem_append.mp commandMem with first | later
      · exact named command first
      · exact inductionHypothesis still _ trail.2 command later

/-- The commands sent by a turtle that performs operations and is finished then. -/
def TracingTurtle.commandsOf (pen : Pen) (pathOpen : Bool) (operations : List Operation) :
    List PathCommand :=
  let calls := operations.map TurtleCall.ofOperation
  TurtleCall.commandsOfAll pen pathOpen calls ++
    if calls.foldl TurtleCall.leavesOpen pathOpen then [.stroke] else []

theorem TracingTurtle.finish_applyAll_eq {σ : Type} [PathSink σ] (turtle : TracingTurtle σ)
    (operations : List Operation) :
    (Turtle.applyAll turtle operations).finish =
      PathSink.emitAll turtle.sink (commandsOf turtle.pen turtle.pathOpen operations) := by
  rw [← TurtleCall.performAll_map_ofOperation, performAll_eq, finish_eq]
  simp only [PathSink.emitAll, commandsOf, List.foldl_append]

/-- Every point that a fresh turtle names to an array has been visited. -/
theorem TracingTurtle.points_of_rendered {grammar : Grammar}
    {turtle : TracingTurtle (Array PathCommand)} {word : Word} {rounds : Nat} {ρ : Type}
    [RandomSource ρ] {source : ρ} {rendering : Rendering (TracingTurtle (Array PathCommand)) ρ}
    (nothingSent : turtle.sink = #[]) (nothingSaved : turtle.pen.saved = [])
    (rendered : grammar.renderFrom turtle word rounds source = .ok rendering) :
    ∀ command ∈ rendering.turtle.finish.toList, ∀ point ∈ command.points,
      point ∈ grammar.visited turtle rounds word source := by
  rcases Grammar.exists_operations_of_renderFrom rendered with ⟨operations, moved, _, visited⟩
  rw [followsPen.trail_eq] at visited
  have among : turtle.pen.StaysAmong (· ∈ grammar.visited turtle rounds word source) := by
    refine ⟨?_, by simp [nothingSaved]⟩
    rw [visited]
    exact List.mem_cons_self
  have trail : ∀ point ∈ turtle.pen.trail operations,
      point ∈ grammar.visited turtle rounds word source := by
    intro point pointMem
    rw [visited]
    exact List.mem_cons_of_mem _ pointMem
  rw [moved, finish_applyAll_eq, PathSink.toList_emitAll, nothingSent, commandsOf]
  intro command commandMem
  simp only [List.nil_append, List.mem_append] at commandMem
  rcases commandMem with sent | last
  · exact among.commandsOfAll turtle.pathOpen trail command sent
  · -- Finishing only paints what has been drawn.
    split at last
    · rw [List.mem_singleton.mp last]
      simp [PathCommand.points]
    · simp at last

end Commands

namespace Grammar

variable {grammar : Grammar}

/-- Operations depend on what the turtle resolves, and not on its type. -/
theorem operationOf_congr {τ τ' : Type} [Turtle τ] [Turtle τ'] {turtle : τ} {other : τ'}
    (sameNames : ∀ name, Turtle.resolve? turtle name = Turtle.resolve? other name) :
    grammar.operationOf turtle = grammar.operationOf other := by
  funext symbol
  simp only [operationOf, sameNames]

theorem operationTable_congr {τ τ' : Type} [Turtle τ] [Turtle τ'] {turtle : τ} {other : τ'}
    (sameNames : ∀ name, Turtle.resolve? turtle name = Turtle.resolve? other name) :
    grammar.operationTable turtle = grammar.operationTable other := by
  rw [operationTable, operationTable, operationOf_congr sameNames]

/-- A word makes all turtles with one vocabulary perform the same operations. -/
theorem exists_operations {τ : Type} [Turtle τ] {model : τ} (known : grammar.IsKnownTo model)
    {rounds : Int} (someRounds : 0 ≤ rounds) (word : Word) :
    ∃ operations : List Operation, ∀ {τ' : Type} [Turtle τ'] (turtle : τ'),
      (∀ name, Turtle.resolve? turtle name = Turtle.resolve? model name) →
        ∃ rendering, grammar.render turtle word rounds = .ok rendering ∧
          rendering.turtle = Turtle.applyAll turtle operations ∧
          rendering.box =
            .covering (Turtle.position turtle) (Turtle.trail turtle operations) := by
  rcases known.exists_operationTable with ⟨table, made⟩
  refine ⟨(grammar.derive rounds.toNat word grammar.randomStream).1.map table.operationOf, ?_⟩
  intro τ' _ turtle sameNames
  rw [← operationTable_congr sameNames] at made
  exact exists_render_of_operationTable made someRounds word

end Grammar

end Lindenmayer
