import Lindenmayer.Proofs.Grammar.Closure
import Lindenmayer.Proofs.Grammar.Resolution
import Lindenmayer.Random.Script
import Lindenmayer.Turtle.Silent

/-!
# Drawing without building the word

`Grammar.walk` rewrites, draws random words, moves the turtle and grows the box in
one pass. Here this is shown to come to the same as building the derived word with
`Grammar.derive` first and executing its symbols one after the other afterwards.

The first step leaves turtles aside: going through a word with any visitor is a
fold of the visitor over the derived word, and leaves the source where deriving
leaves it. The second step sees a rendering as one visitor among others.
-/

namespace Lindenmayer

/-- Performing operations one after the other: what becomes of each part of a rendering. -/
theorem Rendering.foldl_execute {τ ρ : Type} [Turtle τ] (rendering : Rendering τ ρ)
    (operations : List Operation) :
    operations.foldl Rendering.execute rendering =
      { turtle := Turtle.applyAll rendering.turtle operations
        source := rendering.source
        box := (Turtle.trail rendering.turtle operations).foldl Box.insert rendering.box
        executed := rendering.executed + operations.length } := by
  induction operations generalizing rendering with
  | nil => rfl
  | cons operation rest inductionHypothesis =>
      rw [List.foldl_cons, inductionHypothesis]
      simp only [execute, Turtle.applyAll, Turtle.trail, List.foldl_cons, List.length_cons,
        Rendering.mk.injEq, true_and]
      omega

namespace Grammar

/-- Executing the same symbols from the same turtle gives the same drawing. -/
theorem Executes.same_drawing {τ ρ : Type} [Turtle τ] {grammar : Grammar} {turtle : τ}
    {word : Word} {first second : Rendering τ ρ} (firstExecutes : grammar.Executes turtle word first)
    (secondExecutes : grammar.Executes turtle word second) :
    first.turtle = second.turtle ∧ first.box = second.box ∧ first.executed = second.executed := by
  rcases firstExecutes with ⟨operations, resolved, firstTurtle, firstBox, firstExecuted⟩
  rcases secondExecutes with ⟨others, otherResolved, secondTurtle, secondBox, secondExecuted⟩
  have same : operations = others := by
    apply (List.map_inj_right fun _ _ equal => Except.ok.inj equal).mp
    exact resolved.symm.trans otherResolved
  subst others
  exact ⟨firstTurtle.trans secondTurtle.symm, firstBox.trans secondBox.symm,
    firstExecuted.trans secondExecuted.symm⟩

section Traversal

variable {ρ α : Type} [RandomSource ρ]

/-- A visitor sees the symbols of the derived word in order, and the source ends alike. -/
theorem traverse_eq_foldl_derive (grammar : Grammar) (visit : α → Symbol → α) (rounds : Nat)
    (word : Word) (seen : α) (source : ρ) :
    grammar.traverse visit rounds word (seen, source) =
      ((grammar.derive rounds word source).1.foldl visit seen,
        (grammar.derive rounds word source).2) := by
  induction rounds generalizing word seen source with
  | zero => rfl
  | succ rounds roundsHypothesis =>
      induction word generalizing seen source with
      | nil => rfl
      | cons symbol rest restHypothesis =>
          rcases grammar.chooseBody_cases symbol source with
            ⟨terminal, _⟩ | ⟨body, _, bodySource, chosen⟩
          · rw [traverse_succ_cons_terminal _ _ _ _ _ _ _ terminal,
              derive_succ_cons_terminal _ _ _ _ _ terminal, restHypothesis, List.foldl_cons]
          · rw [traverse_succ_cons_chosen _ _ _ _ _ _ _ _ _ chosen,
              derive_succ_cons_chosen _ _ _ _ _ _ _ chosen, roundsHypothesis, restHypothesis,
              List.foldl_append]

/-- The symbols executed are those of the derived word. -/
theorem executed_eq_derive (grammar : Grammar) (rounds : Nat) (word : Word) (source : ρ) :
    grammar.executed rounds word source = (grammar.derive rounds word source).1 := by
  rw [executed, traverse_eq_foldl_derive, List.foldl_append_eq_append, List.nil_append,
    ← List.flatMap_def, List.flatMap_singleton']

end Traversal

variable {τ ρ : Type} [Turtle τ] [RandomSource ρ]

/-- A rendering goes through a word as every visitor does, with its source kept apart. -/
theorem walk_eq_traverse (grammar : Grammar) (table : OperationTable) (rounds : Nat) (word : Word)
    (drawn : Rendering τ ρ) (source : ρ) :
    grammar.walk table rounds word { drawn with source } =
      let (last, rest) := grammar.traverse
        (fun drawn symbol => Rendering.execute drawn (table.operationOf symbol)) rounds word
        (drawn, source)
      { last with source := rest } := by
  induction rounds generalizing word drawn source with
  | zero =>
      induction word generalizing drawn with
      | nil => rfl
      | cons symbol rest restHypothesis =>
          exact restHypothesis (drawn.execute (table.operationOf symbol))
  | succ rounds roundsHypothesis =>
      induction word generalizing drawn source with
      | nil => rfl
      | cons symbol rest restHypothesis =>
          rcases grammar.chooseBody_cases symbol source with
            ⟨terminal, _⟩ | ⟨body, _, bodySource, chosen⟩
          · rw [walk_succ_cons_terminal _ _ _ _ _ _ terminal,
              traverse_succ_cons_terminal _ _ _ _ _ _ _ terminal]
            exact restHypothesis (drawn.execute (table.operationOf symbol)) source
          · rw [walk_succ_cons_chosen _ _ _ _ _ _ _ _ chosen,
              traverse_succ_cons_chosen _ _ _ _ _ _ _ _ _ chosen]
            exact (congrArg _ (roundsHypothesis body drawn bodySource)).trans
              (restHypothesis _ _)

/-- What a walk makes of a rendering that has just begun. -/
theorem walk_start (grammar : Grammar) (table : OperationTable) (rounds : Nat) (word : Word)
    (turtle : τ) (source : ρ) :
    grammar.walk table rounds word (.start turtle source) =
      let operations := (grammar.derive rounds word source).1.map table.operationOf
      { turtle := Turtle.applyAll turtle operations
        source := (grammar.derive rounds word source).2
        box := .covering (Turtle.position turtle) (Turtle.trail turtle operations)
        executed := operations.length } := by
  rw [show Rendering.start turtle source = { Rendering.start turtle source with source } from rfl,
    walk_eq_traverse, traverse_eq_foldl_derive, ← List.foldl_map, Rendering.foldl_execute]
  simp [Rendering.start, Box.covering]

/-- A successful rendering has performed operations, and has visited and covered their trail. -/
theorem exists_operations_of_renderFrom {grammar : Grammar} {turtle : τ} {word : Word}
    {rounds : Nat} {source : ρ} {rendering : Rendering τ ρ}
    (rendered : grammar.renderFrom turtle word rounds source = .ok rendering) :
    ∃ operations, rendering.turtle = Turtle.applyAll turtle operations ∧
      rendering.box = .covering (Turtle.position turtle) (Turtle.trail turtle operations) ∧
      grammar.visited turtle rounds word source =
        Turtle.position turtle :: Turtle.trail turtle operations := by
  rcases renderFrom_eq_ok_iff.mp rendered with ⟨table, made, rfl⟩
  have walked := walk_start grammar table rounds word turtle source
  refine ⟨_, congrArg Rendering.turtle walked, congrArg Rendering.box walked, ?_⟩
  rw [visited, made, executed_eq_derive]

/-- A turtle with a table of operations performs those of the derived word. -/
theorem exists_render_of_operationTable {grammar : Grammar} {turtle : τ} {table : OperationTable}
    (made : grammar.operationTable turtle = .ok table) {rounds : Int} (someRounds : 0 ≤ rounds)
    (word : Word) :
    let operations :=
      (grammar.derive rounds.toNat word grammar.randomStream).1.map table.operationOf
    ∃ drawing, grammar.render turtle word rounds = .ok drawing ∧
      drawing.turtle = Turtle.applyAll turtle operations ∧
      drawing.box = .covering (Turtle.position turtle) (Turtle.trail turtle operations) := by
  refine ⟨grammar.walk table rounds.toNat word (.start turtle grammar.randomStream), ?_, ?_, ?_⟩
  · exact render_eq_ok_iff.mpr ⟨someRounds, renderFrom_eq_ok_iff.mpr ⟨table, made, rfl⟩⟩
  · rw [walk_start]
  · rw [walk_start]

/-- A turtle that knows all names is driven through the derived word. -/
theorem exists_renderFrom (grammar : Grammar) (closed : grammar.IsClosed) (turtle : τ)
    (known : grammar.IsKnownTo turtle) (word : Word) (listed : grammar.alphabet.Lists word)
    (rounds : Nat) (source : ρ) :
    ∃ rendering, grammar.renderFrom turtle word rounds source = .ok rendering ∧
      rendering.source = (grammar.derive rounds word source).2 ∧
      grammar.Executes turtle (grammar.derive rounds word source).1 rendering := by
  rcases known.exists_operationTable with ⟨table, made⟩
  refine ⟨grammar.walk table rounds word (.start turtle source), ?_, ?_, ?_⟩
  · rw [renderFrom, made]
    rfl
  · rw [walk_start]
  · refine ⟨(grammar.derive rounds word source).1.map table.operationOf, ?_, ?_, ?_, ?_⟩
    · exact map_operationOf_of_operationTable made (closed.lists_derive rounds word listed source)
    · rw [walk_start]
    · rw [walk_start]
    · rw [walk_start]
      simp

/--
Drawing is deriving first and executing afterwards. Whatever a grammar has been
told, a turtle that knows its action names is driven through any word over its
alphabet without failing; it performs the operation of each symbol of the derived
word once and in order, the box covers the start and each point reached, and the
source ends where deriving leaves it.
-/
theorem renderFrom_executes_derive (edits : List GrammarEdit) (turtle : τ)
    (known : (ofEdits edits).IsKnownTo turtle) (word : Word)
    (listed : (ofEdits edits).alphabet.Lists word) (rounds : Nat) (source : ρ) :
    ∃ rendering, (ofEdits edits).renderFrom turtle word rounds source = .ok rendering ∧
      rendering.source = ((ofEdits edits).derive rounds word source).2 ∧
      (ofEdits edits).Executes turtle ((ofEdits edits).derive rounds word source).1 rendering :=
  (ofEdits edits).exists_renderFrom (isClosed_ofEdits edits) turtle known word listed rounds source

/-- A plant that either branches or grows, with its brackets and turns bound to names. -/
def branchingPlant : List GrammarEdit :=
  [.setAction '[' "push", .setAction ']' "pop", .setAction '+' "turnL",
    .addRule 'F' "F[+F]F", .addRule 'F' "FF"]

theorem renderFrom_executes_derive_branchingPlant :
    (ofEdits branchingPlant).IsKnownTo SilentTurtle.standard ∧
      (ofEdits branchingPlant).alphabet.Lists [⟨2, '+'⟩, ⟨3, 'F'⟩] ∧
      ∃ rendering, (ofEdits branchingPlant).renderFrom SilentTurtle.standard
          [⟨2, '+'⟩, ⟨3, 'F'⟩] 3 (Script.mk [7, 3000000000]) = .ok rendering ∧
        rendering.source =
          ((ofEdits branchingPlant).derive 3 [⟨2, '+'⟩, ⟨3, 'F'⟩] (Script.mk [7, 3000000000])).2 ∧
        (ofEdits branchingPlant).Executes SilentTurtle.standard
          ((ofEdits branchingPlant).derive 3 [⟨2, '+'⟩, ⟨3, 'F'⟩] (Script.mk [7, 3000000000])).1
          rendering :=
  ⟨by decide, by decide,
    renderFrom_executes_derive branchingPlant SilentTurtle.standard (by decide) _ (by decide) 3 _⟩

end Grammar

end Lindenmayer
