import Lindenmayer.Proofs.Geometry.Hull
import Lindenmayer.Proofs.Grammar.Streaming
import Lindenmayer.Turtle.Itinerary

/-!
# The extent of a drawing

The box that a rendering returns is the hull of the points it has visited. The box is
handed down through all rounds and is never made smaller, also where a saved pose is
restored; in the end it has covered the starting point and then, one after the other,
the points that the executed symbols lead to.
-/

namespace Lindenmayer.Grammar

variable {τ ρ : Type} [Turtle τ] [RandomSource ρ]

theorem isHullOf_visited {grammar : Grammar} {turtle : τ} {word : Word} {rounds : Nat}
    {source : ρ} {rendering : Rendering τ ρ}
    (rendered : grammar.renderFrom turtle word rounds source = .ok rendering)
    (numeric : ∀ point ∈ grammar.visited turtle rounds word source, point.isNumeric) :
    rendering.box.IsHullOf (grammar.visited turtle rounds word source) := by
  rcases exists_operations_of_renderFrom rendered with ⟨operations, _, covered, visited⟩
  rw [visited] at numeric ⊢
  rw [covered]
  exact Box.isHullOf_covering numeric

/--
The box of a rendering is the hull of the points visited, provided that none of them has
a NaN for a coordinate: for all words, turtles and sources of choices; for choices from
the grammar's own stream; and for the initiator.
-/
theorem render_isHullOf_visited {τ : Type} [Turtle τ] (grammar : Grammar) (turtle : τ) :
    (∀ {ρ : Type} [RandomSource ρ] (word : Word) (rounds : Nat) (source : ρ)
      (rendering : Rendering τ ρ), grammar.renderFrom turtle word rounds source = .ok rendering →
      (∀ point ∈ grammar.visited turtle rounds word source, point.isNumeric) →
        rendering.box.IsHullOf (grammar.visited turtle rounds word source)) ∧
    (∀ (word : Word) (rounds : Int) (rendering : Rendering τ ChaCha.Stream),
      grammar.render turtle word rounds = .ok rendering →
      (∀ point ∈ grammar.visited turtle rounds.toNat word grammar.randomStream, point.isNumeric) →
        rendering.box.IsHullOf
          (grammar.visited turtle rounds.toNat word grammar.randomStream)) ∧
    (∀ (rounds : Int) (rendering : Rendering τ ChaCha.Stream),
      grammar.renderInitiator turtle rounds = .ok rendering →
      (∀ point ∈ grammar.visited turtle rounds.toNat grammar.initiator grammar.randomStream,
        point.isNumeric) →
        rendering.box.IsHullOf
          (grammar.visited turtle rounds.toNat grammar.initiator grammar.randomStream)) := by
  refine ⟨?_, ?_, ?_⟩
  · intro ρ _ word rounds source rendering rendered numeric
    exact isHullOf_visited rendered numeric
  · intro word rounds rendering rendered numeric
    exact isHullOf_visited (render_eq_ok_iff.mp rendered).2 numeric
  · intro rounds rendering rendered numeric
    exact isHullOf_visited (render_eq_ok_iff.mp rendered).2 numeric

/-- A curve of three segments and two gaps in one round, and one that always goes on. -/
def dashedCurve : List GrammarEdit := [.addRule 'F' "FfF", .setInitiator "F"]

/-- A way along zeros of both signs and past both infinities. -/
def farWay : Itinerary where
  here := ⟨0.0, 1.0⟩
  ahead := [⟨-0.0, 2.0⟩, ⟨1.0 / 0.0, -0.0⟩, ⟨-3.0, -1.0 / 0.0⟩, ⟨0.0, 0.5⟩, ⟨2.5, 0.0⟩]

theorem render_isHullOf_visited_farWay :
    let grammar := ofEdits dashedCurve
    (∀ point ∈ grammar.visited farWay 2 grammar.initiator grammar.randomStream,
      point.isNumeric) ∧
      ∃ rendering, grammar.renderInitiator farWay 2 = .ok rendering ∧
        rendering.box.IsHullOf (grammar.visited farWay 2 grammar.initiator grammar.randomStream) := by
  intro grammar
  have numeric : ∀ point ∈ grammar.visited farWay 2 grammar.initiator grammar.randomStream,
      point.isNumeric := by decide +kernel
  have known : grammar.IsKnownTo farWay := by decide
  have someRounds : (0 : Int) ≤ 2 := by decide
  rcases exists_render_iff.mpr ⟨someRounds, known⟩ with ⟨rendering, rendered⟩
  exact ⟨numeric, rendering, rendered,
    (render_isHullOf_visited grammar farWay).2.2 2 rendering rendered numeric⟩

end Lindenmayer.Grammar
