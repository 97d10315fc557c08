import Lindenmayer.GrammarFile.Build
import Lindenmayer.GrammarFile.Text
import Lindenmayer.Proofs.Geometry.Coverage
import Lindenmayer.Proofs.Grammar.Streaming

/-!
# Points that a drawing loses

The numbers of a grammar file are finite, but a heading that is turned too far is not, and an
infinite heading points nowhere: the next step leads to a point without coordinates. If it is
taken between brackets the turtle comes back from there. The box does not. It has forgotten
what it covered before, and covers what has been visited since.
-/

namespace Lindenmayer

namespace Grammar

variable {τ ρ : Type} [Turtle τ] [RandomSource ρ] {grammar : Grammar} {turtle : τ} {word : Word}
  {rounds : Nat} {source : ρ} {rendering : Rendering τ ρ}

/-- What the box of a rendering contains, whatever points have been visited. -/
theorem box_contains_iff
    (rendered : grammar.renderFrom turtle word rounds source = .ok rendering) {point : Point} :
    rendering.box.contains point ↔
      point.LiesBetweenLatest (grammar.visited turtle rounds word source) := by
  rcases exists_operations_of_renderFrom rendered with ⟨operations, _, covered, visited⟩
  rw [covered, visited]
  exact Box.covering_contains_iff

/-- The starting point has been visited. -/
theorem position_mem_visited
    (rendered : grammar.renderFrom turtle word rounds source = .ok rendering) :
    Turtle.position turtle ∈ grammar.visited turtle rounds word source := by
  rcases exists_operations_of_renderFrom rendered with ⟨operations, _, _, visited⟩
  rw [visited]
  exact List.mem_cons_self

end Grammar

namespace GrammarFile

/--
Whether a grammar and a turtle are those of a text, and a rendering is the drawing of the
initiator from the pose that the text asks for.
-/
structure IsDrawing (text : String) (rounds : Int) (grammar : Grammar) (turtle : SilentTurtle)
    (rendering : Rendering SilentTurtle ChaCha.Stream) : Prop where
  builds : ∃ file, ofText text = .ok file ∧ file.build = .ok (grammar, turtle)
  rendered : grammar.renderInitiator turtle rounds = .ok rendering

/--
The box of a drawing contains just those points that lie, on each axis, between coordinates
visited after the last NaN of this axis. A visited point is lost by no more than that: if there
has been no NaN since, the point is contained, and infinite coordinates make no difference.
-/
theorem drawing_contains_iff {text : String} {rounds : Int} {grammar : Grammar}
    {turtle : SilentTurtle} {rendering : Rendering SilentTurtle ChaCha.Stream}
    (drawing : IsDrawing text rounds grammar turtle rendering) :
    let visited := grammar.visited turtle rounds.toNat grammar.initiator grammar.randomStream
    (∀ point, rendering.box.contains point ↔ point.LiesBetweenLatest visited) ∧
      ∀ earlier later, visited = earlier ++ later → (∀ point ∈ later, point.isNumeric) →
        ∀ point ∈ later, rendering.box.contains point := by
  intro visited
  have rendered := (Grammar.render_eq_ok_iff.mp drawing.rendered).2
  refine ⟨fun point => Grammar.box_contains_iff rendered, ?_⟩
  intro earlier later split numeric point pointMem
  rw [Grammar.box_contains_iff rendered]
  change point.LiesBetweenLatest visited
  rw [split]
  exact Point.liesBetweenLatest_of_mem numeric pointMem

section Overturned

/-- The drawing of a text with the grammar and the turtle it is made with, if there is one. -/
def drawing? (text : String) (rounds : Int) :
    Option (Grammar × SilentTurtle × Rendering SilentTurtle ChaCha.Stream) :=
  match ofText text with
  | .error _ => none
  | .ok file =>
    match file.build with
    | .error _ => none
    | .ok (grammar, turtle) =>
      match grammar.renderInitiator turtle rounds with
      | .error _ => none
      | .ok rendering => some (grammar, turtle, rendering)

theorem isDrawing_of_drawing? {text : String} {rounds : Int} {grammar : Grammar}
    {turtle : SilentTurtle} {rendering : Rendering SilentTurtle ChaCha.Stream}
    (drawn : drawing? text rounds = some (grammar, turtle, rendering)) :
    IsDrawing text rounds grammar turtle rendering := by
  unfold drawing? at drawn
  split at drawn
  · cases drawn
  · rename_i file read
    split at drawn
    · cases drawn
    · rename_i builtGrammar builtTurtle built
      split at drawn
      · cases drawn
      · rename_i rendered
        cases drawn
        exact ⟨⟨file, read, built⟩, rendered⟩

/-- A grammar file whose turtle, turning left two times, turns too far. -/
def overturnedText (initiator : String) : String :=
  "\x7b\"actions\": \x7b\"+\": \"turnL\", \"[\": \"push\", \"]\": \"pop\"\x7d, \"axiom\": \"" ++
    initiator ++
    "\", \"parameters\": \x7b\"step\": 1, \"angle\": 1e308, \"start\": [0, 0, 0]\x7d\x7d"

/-- A step along an infinite heading is undone at once: the start is visited before and after. -/
theorem drawing_contains_iff_undone :
    ∃ grammar turtle rendering, IsDrawing (overturnedText "[++F]") 0 grammar turtle rendering ∧
      let visited := grammar.visited turtle 0 grammar.initiator grammar.randomStream
      (∃ point ∈ visited, point.isNumeric = false) ∧
        rendering.box.contains (Turtle.position turtle) ∧
        (Turtle.position turtle).LiesBetweenLatest visited := by
  have computed : (drawing? (overturnedText "[++F]") 0).any fun (grammar, turtle, rendering) =>
      (grammar.visited turtle 0 grammar.initiator grammar.randomStream).any (!·.isNumeric) &&
        rendering.box.contains (Turtle.position turtle) := by decide +kernel
  rcases (Option.any_eq_true _ _).mp computed with ⟨⟨grammar, turtle, rendering⟩, drawn, astray⟩
  simp only [Bool.and_eq_true, List.any_eq_true, Bool.not_eq_true'] at astray
  have drawing := isDrawing_of_drawing? drawn
  exact ⟨grammar, turtle, rendering, drawing, astray.1, astray.2,
    ((drawing_contains_iff drawing).1 _).mp astray.2⟩

/-- A drawing loses its start, a point of finite coordinates, if the turtle ends up nowhere. -/
theorem drawing_loses_start :
    ∃ grammar turtle rendering, IsDrawing (overturnedText "++F") 0 grammar turtle rendering ∧
      Turtle.position turtle ∈
        grammar.visited turtle 0 grammar.initiator grammar.randomStream ∧
      (Turtle.position turtle).isFinite ∧ ¬rendering.box.contains (Turtle.position turtle) := by
  have computed : (drawing? (overturnedText "++F") 0).any fun (_, turtle, rendering) =>
      (Turtle.position turtle).isFinite && !rendering.box.contains (Turtle.position turtle) := by
    decide +kernel
  rcases (Option.any_eq_true _ _).mp computed with ⟨⟨grammar, turtle, rendering⟩, drawn, lost⟩
  simp only [Bool.and_eq_true, Bool.not_eq_true'] at lost
  have drawing := isDrawing_of_drawing? drawn
  have rendered := (Grammar.render_eq_ok_iff.mp drawing.rendered).2
  refine ⟨grammar, turtle, rendering, drawing, Grammar.position_mem_visited rendered, lost.1, ?_⟩
  rw [lost.2]
  decide

end Overturned

end GrammarFile

end Lindenmayer
