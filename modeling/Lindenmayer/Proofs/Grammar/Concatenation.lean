import Lindenmayer.Proofs.Geometry.Union
import Lindenmayer.Proofs.Turtle.Agreement

/-!
# Drawing in parts

A word may be drawn in two parts with one turtle and one source of choices. Deriving goes
depth first, so it is through with the first part before it looks at the second, and the
random words are those that are drawn for the whole; the turtle, which performs one
operation after the other, does not notice the seam either.

At the seam the names are resolved once more and a new box is begun. The table of
operations comes out as before, since turtles do not learn names by drawing, and the new
box begins with the point that the first one has covered last.
-/

namespace Lindenmayer

section Turtles

variable {τ : Type} [Turtle τ]

namespace Turtle

theorem applyAll_append (turtle : τ) (first second : List Operation) :
    applyAll turtle (first ++ second) = applyAll (applyAll turtle first) second :=
  List.foldl_append

theorem trail_append (turtle : τ) (first second : List Operation) :
    trail turtle (first ++ second) =
      trail turtle first ++ trail (applyAll turtle first) second := by
  induction first generalizing turtle with
  | nil => rfl
  | cons operation rest inductionHypothesis =>
      simp only [List.cons_append, trail, inductionHypothesis, applyAll, List.foldl_cons]

/-- A turtle is where its trail ends. -/
theorem position_applyAll (turtle : τ) (operations : List Operation) :
    position (applyAll turtle operations) =
      (trail turtle operations).getLastD (position turtle) := by
  induction operations using List.reverseRecOn with
  | nil => rfl
  | append_singleton earlier operation _ =>
      rw [trail_append, trail, trail, List.getLastD_concat, applyAll_append]
      rfl

/-- Whether turtles of a type know the same names whatever they are made to do. -/
def KeepsNames (τ : Type) [Turtle τ] : Prop :=
  ∀ (turtle : τ) (operation : Operation) (name : String),
    resolve? (apply turtle operation) name = resolve? turtle name

theorem KeepsNames.applyAll (keeps : KeepsNames τ) (turtle : τ) (operations : List Operation)
    (name : String) : resolve? (applyAll turtle operations) name = resolve? turtle name := by
  induction operations generalizing turtle with
  | nil => rfl
  | cons operation rest inductionHypothesis =>
      exact (inductionHypothesis (apply turtle operation)).trans (keeps turtle operation name)

end Turtle

theorem SilentTurtle.keepsNames : Turtle.KeepsNames SilentTurtle := by
  intro turtle operation name
  cases operation <;> rfl

theorem TracingTurtle.keepsNames {σ : Type} [PathSink σ] :
    Turtle.KeepsNames (TracingTurtle σ) := by
  intro turtle operation name
  rw [← TurtleCall.perform_ofOperation, perform_eq]
  rfl

end Turtles

namespace Grammar

section Derivation

variable {ρ : Type} [RandomSource ρ]

/-- What is derived from two words, one after the other, is derived from them as one word. -/
theorem derive_append (grammar : Grammar) (rounds : Nat) (front back : Word) (source : ρ) :
    grammar.derive rounds (front ++ back) source =
      let (first, middle) := grammar.derive rounds front source
      let (second, last) := grammar.derive rounds back middle
      (first ++ second, last) := by
  cases rounds with
  | zero => rfl
  | succ rounds =>
      induction front generalizing source with
      | nil => simp
      | cons symbol rest inductionHypothesis =>
          simp only [derive] at inductionHypothesis
          simp only [derive, List.cons_append, deriveSymbols, inductionHypothesis,
            List.append_assoc]

end Derivation

variable {τ ρ : Type} [Turtle τ] [RandomSource ρ]

/--
Whether it makes no difference to a turtle and a source if two words are drawn as one or after
each other, the second one from where the first one has left them.
-/
structure IsDrawnInParts (grammar : Grammar) (turtle : τ) (front back : Word) (rounds : Nat)
    (source : ρ) : Prop where
  /-- Both ways succeed, or none does. -/
  succeeds : (∃ whole, grammar.renderFrom turtle (front ++ back) rounds source = .ok whole) ↔
    ∃ first second, grammar.renderFrom turtle front rounds source = .ok first ∧
      grammar.renderFrom first.turtle back rounds first.source = .ok second
  /-- Both ways have the same outcome, with the boxes of the parts united. -/
  agrees : ∀ whole first second,
    grammar.renderFrom turtle (front ++ back) rounds source = .ok whole →
    grammar.renderFrom turtle front rounds source = .ok first →
    grammar.renderFrom first.turtle back rounds first.source = .ok second →
      whole.turtle = second.turtle ∧ whole.source = second.source ∧
        whole.executed = first.executed + second.executed ∧
        ((∀ point ∈ grammar.visited turtle rounds (front ++ back) source, point.isNumeric) →
          whole.box = first.box.union second.box)

/-- The table of operations is the same at the seam as at the start. -/
theorem operationTable_of_renderFrom {grammar : Grammar} (keeps : Turtle.KeepsNames τ)
    {turtle : τ} {word : Word} {rounds : Nat} {source : ρ} {rendering : Rendering τ ρ}
    (rendered : grammar.renderFrom turtle word rounds source = .ok rendering) :
    grammar.operationTable rendering.turtle = grammar.operationTable turtle := by
  rcases exists_operations_of_renderFrom rendered with ⟨operations, moved, _, _⟩
  rw [moved]
  exact operationTable_congr (keeps.applyAll turtle operations)

theorem isDrawnInParts (grammar : Grammar) (keeps : Turtle.KeepsNames τ) (turtle : τ)
    (front back : Word) (rounds : Nat) (source : ρ) :
    grammar.IsDrawnInParts turtle front back rounds source where
  succeeds := by
    constructor
    · rintro ⟨whole, rendered⟩
      rcases renderFrom_eq_ok_iff.mp rendered with ⟨table, made, _⟩
      have firstRendered : grammar.renderFrom turtle front rounds source =
          .ok (grammar.walk table rounds front (.start turtle source)) :=
        renderFrom_eq_ok_iff.mpr ⟨table, made, rfl⟩
      have stillMade := operationTable_of_renderFrom keeps firstRendered
      exact ⟨_, _, firstRendered, renderFrom_eq_ok_iff.mpr ⟨table, stillMade.trans made, rfl⟩⟩
    · rintro ⟨first, _, firstRendered, _⟩
      rcases renderFrom_eq_ok_iff.mp firstRendered with ⟨table, made, _⟩
      exact ⟨_, renderFrom_eq_ok_iff.mpr ⟨table, made, rfl⟩⟩
  agrees whole first second wholeRendered firstRendered secondRendered := by
    have stillMade := operationTable_of_renderFrom keeps firstRendered
    rcases renderFrom_eq_ok_iff.mp firstRendered with ⟨table, made, firstWalked⟩
    rcases renderFrom_eq_ok_iff.mp wholeRendered with ⟨wholeTable, wholeMade, wholeWalked⟩
    rcases renderFrom_eq_ok_iff.mp secondRendered with ⟨secondTable, secondMade, secondWalked⟩
    rw [made, Except.ok.injEq] at wholeMade
    rw [stillMade, made, Except.ok.injEq] at secondMade
    subst wholeTable secondTable
    rw [walk_start] at firstWalked wholeWalked secondWalked
    subst firstWalked
    subst wholeWalked secondWalked
    rw [visited, made, executed_eq_derive]
    simp only [derive_append, List.map_append, List.length_append, Turtle.applyAll_append,
      Turtle.trail_append, Turtle.position_applyAll, true_and]
    exact Box.covering_append

/--
Drawing is additive over words. With a silent turtle, and with a tracing turtle and any sink, two
words are drawn as one just if they can be drawn after each other, the second one from where the
first one has left the turtle and the source. Turtle and source are the same in the end, with the
pose, the saved poses, what has been sent and the path flag; and unless a visited point has a NaN
for a coordinate, the box is the union of the boxes of the parts.
-/
theorem renderFrom_append_additive (grammar : Grammar) (front back : Word) (rounds : Nat)
    (source : ρ) :
    (∀ turtle : SilentTurtle, grammar.IsDrawnInParts turtle front back rounds source) ∧
      ∀ (σ : Type) [PathSink σ] (turtle : TracingTurtle σ),
        grammar.IsDrawnInParts turtle front back rounds source := by
  constructor
  · intro turtle
    exact grammar.isDrawnInParts SilentTurtle.keepsNames turtle front back rounds source
  · intro σ _ turtle
    exact grammar.isDrawnInParts TracingTurtle.keepsNames turtle front back rounds source

/-- Turns, within brackets or without. -/
def turning : List GrammarEdit :=
  [.setAction '[' "push", .setAction ']' "pop", .setAction '+' "turnL", .addRule '*' "[+*]",
    .addRule '*' "+*"]

/-- The seam is where a pose has been restored that was saved before, with a path open. -/
theorem renderFrom_append_additive_turning :
    let grammar := ofEdits turning
    let turtle : TracingTurtle (Array PathCommand) := ⟨.underway, .standard, #[], true⟩
    let front : Word := [⟨3, '*'⟩, ⟨1, ']'⟩]
    let back : Word := [⟨2, '+'⟩, ⟨3, '*'⟩]
    let source := Script.mk [7, 3000000000, 7]
    (∀ point ∈ grammar.visited turtle 2 (front ++ back) source, point.isNumeric) ∧
      ∃ whole first second, grammar.renderFrom turtle (front ++ back) 2 source = .ok whole ∧
        grammar.renderFrom turtle front 2 source = .ok first ∧
        grammar.renderFrom first.turtle back 2 first.source = .ok second ∧
        whole.turtle = second.turtle ∧ whole.source = second.source ∧
        whole.box = first.box.union second.box := by
  intro grammar turtle front back source
  have numeric : ∀ point ∈ grammar.visited turtle 2 (front ++ back) source, point.isNumeric := by
    decide +kernel
  have drawn := (renderFrom_append_additive grammar front back 2 source).2 _ turtle
  rcases grammar.exists_renderFrom (isClosed_ofEdits turning) turtle (by decide) (front ++ back)
    (by decide) 2 source with ⟨whole, wholeRendered, _⟩
  rcases drawn.succeeds.mp ⟨whole, wholeRendered⟩ with
    ⟨first, second, firstRendered, secondRendered⟩
  rcases drawn.agrees whole first second wholeRendered firstRendered secondRendered with
    ⟨sameTurtle, sameSource, _, united⟩
  exact ⟨numeric, whole, first, second, wholeRendered, firstRendered, secondRendered, sameTurtle,
    sameSource, united numeric⟩

end Grammar

end Lindenmayer
