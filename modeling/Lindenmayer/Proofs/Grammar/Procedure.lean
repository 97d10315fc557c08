import Lindenmayer.Grammar.Procedure
import Lindenmayer.Proofs.Grammar.Resolution

/-!
# What drawing in place does

Each procedure is run on a turtle and a source, and what it answers and leaves behind is
said in terms of the functions it is a rendition of. Drawing in place is resolving the
symbols first, which touches neither turtle nor source, and then going through the word,
which cannot break off. So there are only two ways for it to end: with what
`Grammar.renderFrom` answers, or with everything as it was.
-/

namespace Lindenmayer

namespace Procedure

section Sequence

variable {τ ρ α β : Type} {held next : τ × ρ}

theorem run_bind_of_ok {first : Procedure τ ρ α} {result : α} {second : α → Procedure τ ρ β}
    (succeeded : first.run held = (.ok result, next)) :
    (first >>= second).run held = (second result).run next := by
  change ExceptT.bindCont second (first.run held).1 (first.run held).2 = _
  rw [succeeded]
  rfl

theorem run_bind_of_error {first : Procedure τ ρ α} {problem : RenderError}
    {second : α → Procedure τ ρ β} (failed : first.run held = (.error problem, next)) :
    (first >>= second).run held = (.error problem, next) := by
  change ExceptT.bindCont second (first.run held).1 (first.run held).2 = _
  rw [failed]
  rfl

theorem run_chooseBody [RandomSource ρ] (grammar : Grammar) (symbol : Symbol) (turtle : τ)
    (source : ρ) :
    (chooseBody grammar symbol).run (turtle, source) =
      (.ok (grammar.chooseBody symbol source).1, turtle, (grammar.chooseBody symbol source).2) :=
  rfl

end Sequence

variable {τ ρ : Type} [Turtle τ]

theorem run_resolve (grammar : Grammar) (symbol : Symbol) (turtle : τ) (source : ρ) :
    (resolve grammar symbol).run (turtle, source) =
      (grammar.operationOf turtle symbol, turtle, source) := by
  change (MonadExcept.ofExcept (grammar.operationOf turtle symbol) : Procedure τ ρ Operation).run
    (turtle, source) = _
  cases grammar.operationOf turtle symbol <;> rfl

/-- Resolving any number of symbols leaves turtle and source alone, also if it breaks off. -/
theorem run_mapM_resolve (grammar : Grammar) (symbols : List Symbol) (turtle : τ) (source : ρ) :
    (symbols.mapM (resolve grammar)).run (turtle, source) =
      (symbols.mapM (grammar.operationOf turtle), turtle, source) := by
  induction symbols with
  | nil => rfl
  | cons symbol rest inductionHypothesis =>
      have resolved := run_resolve grammar symbol turtle source
      rw [List.mapM_cons, List.mapM_cons]
      cases first : grammar.operationOf turtle symbol with
      | error problem =>
          rw [first] at resolved
          exact run_bind_of_error resolved
      | ok operation =>
          rw [first] at resolved
          rw [run_bind_of_ok resolved]
          cases further : rest.mapM (grammar.operationOf turtle) with
          | error problem =>
              rw [further] at inductionHypothesis
              exact run_bind_of_error inductionHypothesis
          | ok operations =>
              rw [further] at inductionHypothesis
              rw [run_bind_of_ok inductionHypothesis]
              rfl

theorem run_execute (operation : Operation) (rendering : Rendering τ ρ) :
    (execute operation rendering.box).run (rendering.turtle, rendering.source) =
      (.ok (rendering.execute operation).box, (rendering.execute operation).turtle,
        (rendering.execute operation).source) :=
  rfl

variable [RandomSource ρ] {grammar : Grammar} {symbol : Symbol} {turtle : τ}
  {source chosenSource : ρ}

theorem run_visit_of_terminal (terminal : grammar.alternatives symbol = [])
    (table : OperationTable) (deeper : Word → Box → Procedure τ ρ Box) (box : Box) :
    (visit grammar table deeper box symbol).run (turtle, source) =
      (execute (table.operationOf symbol) box).run (turtle, source) := by
  have chosen := run_chooseBody grammar symbol turtle source
  rw [Grammar.chooseBody_of_terminal terminal] at chosen
  rw [visit, run_bind_of_ok chosen]

theorem run_visit_of_chosen {body : Word}
    (picked : grammar.chooseBody symbol source = (some body, chosenSource))
    (table : OperationTable) (deeper : Word → Box → Procedure τ ρ Box) (box : Box) :
    (visit grammar table deeper box symbol).run (turtle, source) =
      (deeper body box).run (turtle, chosenSource) := by
  have chosen := run_chooseBody grammar symbol turtle source
  rw [picked] at chosen
  rw [visit, run_bind_of_ok chosen]

end Procedure

namespace Grammar

variable {τ ρ : Type} [Turtle τ] [RandomSource ρ]

/-- Going through a word in place never breaks off, and leaves what a walk makes of a rendering. -/
theorem run_walkInPlace (grammar : Grammar) (table : OperationTable) (rounds : Nat) (word : Word)
    (rendering : Rendering τ ρ) :
    (grammar.walkInPlace table rounds word rendering.box).run
        (rendering.turtle, rendering.source) =
      (.ok (grammar.walk table rounds word rendering).box,
        (grammar.walk table rounds word rendering).turtle,
        (grammar.walk table rounds word rendering).source) := by
  induction rounds generalizing word rendering with
  | zero =>
      induction word generalizing rendering with
      | nil => rfl
      | cons symbol rest restHypothesis =>
          exact restHypothesis (rendering.execute (table.operationOf symbol))
  | succ rounds roundsHypothesis =>
      induction word generalizing rendering with
      | nil => rfl
      | cons symbol rest restHypothesis =>
          rw [walkInPlace, List.foldlM_cons]
          rcases grammar.chooseBody_cases symbol rendering.source with
            ⟨terminal, _⟩ | ⟨body, _, bodySource, chosen⟩
          · have visited := (Procedure.run_visit_of_terminal terminal table
              (grammar.walkInPlace table rounds) rendering.box).trans
                (Procedure.run_execute (table.operationOf symbol) rendering)
            rw [walk_succ_cons_terminal _ _ _ _ _ _ terminal, Procedure.run_bind_of_ok visited]
            exact restHypothesis _
          · have visited := (Procedure.run_visit_of_chosen chosen table
              (grammar.walkInPlace table rounds) rendering.box).trans
                (roundsHypothesis body { rendering with source := bodySource })
            rw [walk_succ_cons_chosen _ _ _ _ _ _ _ _ chosen, Procedure.run_bind_of_ok visited]
            exact restHypothesis _

/-- Drawing in place ends with what `renderFrom` answers, or with everything as it was. -/
theorem run_renderFromInPlace (grammar : Grammar) (turtle : τ) (word : Word) (rounds : Nat)
    (source : ρ) :
    (grammar.renderFromInPlace word rounds).run (turtle, source) =
      match grammar.renderFrom turtle word rounds source with
      | .ok rendering => (.ok rendering.box, rendering.turtle, rendering.source)
      | .error problem => (.error problem, turtle, source) := by
  have resolved := Procedure.run_mapM_resolve grammar grammar.alphabet.symbols turtle source
  rw [renderFromInPlace, renderFrom, operationTable]
  cases outcome : grammar.alphabet.symbols.mapM (grammar.operationOf turtle) with
  | error problem =>
      rw [outcome] at resolved
      exact Procedure.run_bind_of_error resolved
  | ok operations =>
      rw [outcome] at resolved
      rw [Procedure.run_bind_of_ok resolved]
      exact grammar.run_walkInPlace operations.toArray rounds word (.start turtle source)

theorem run_renderInPlace (grammar : Grammar) (turtle : τ) (word : Word) (rounds : Int) :
    (grammar.renderInPlace word rounds).run turtle =
      match grammar.render turtle word rounds with
      | .ok rendering => (.ok rendering.box, rendering.turtle)
      | .error problem => (.error problem, turtle) := by
  by_cases negative : rounds < 0
  · simp only [renderInPlace, render, if_pos negative]
    rfl
  · have ran := grammar.run_renderFromInPlace turtle word rounds.toNat grammar.randomStream
    simp only [renderInPlace, render, if_neg negative, ExceptT.run_mk, ran]
    cases grammar.renderFrom turtle word rounds.toNat grammar.randomStream <;> rfl

end Grammar

end Lindenmayer
