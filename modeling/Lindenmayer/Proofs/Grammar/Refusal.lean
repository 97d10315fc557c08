import Lindenmayer.Grammar.Construction
import Lindenmayer.Proofs.Grammar.Procedure
import Lindenmayer.Turtle.Recording
import Lindenmayer.Turtle.Silent

/-!
# When drawing is refused

There are two reasons to refuse a drawing, and the number of rounds is looked at before
the names. A table of operations is made symbol by symbol, so it fails for the first
symbol that is bound to an unknown name, whether this symbol is ever met in the drawing
or not. All of this happens before the turtle is told anything.
-/

namespace Lindenmayer

/-- Computing over a list fails when it fails on an item, and on none before it. -/
theorem mapM_eq_error_iff {α β ε : Type} {compute : α → Except ε β} {items : List α}
    {problem : ε} :
    items.mapM compute = .error problem ↔
      ∃ before item after, items = before ++ item :: after ∧
        (∀ earlier ∈ before, ∃ result, compute earlier = .ok result) ∧
        compute item = .error problem := by
  induction items with
  | nil => simp [pure, Except.pure]
  | cons first rest inductionHypothesis =>
      have failsFirst : (first :: rest).mapM compute = .error problem ↔
          compute first = .error problem ∨
            (∃ result, compute first = .ok result) ∧ rest.mapM compute = .error problem := by
        rw [List.mapM_cons]
        cases compute first <;> cases rest.mapM compute <;>
          simp [bind, Except.bind, pure, Except.pure]
      rw [failsFirst, inductionHypothesis]
      constructor
      · rintro (failed | ⟨succeeded, before, item, after, split, restSucceeded, failed⟩)
        · exact ⟨[], first, rest, rfl, by simp, failed⟩
        · refine ⟨first :: before, item, after, by rw [split, List.cons_append], ?_, failed⟩
          exact List.forall_mem_cons.mpr ⟨succeeded, restSucceeded⟩
      · rintro ⟨before, item, after, split, succeeded, failed⟩
        cases before with
        | nil =>
            cases split
            exact .inl failed
        | cons other before =>
            cases split
            rcases List.forall_mem_cons.mp succeeded with ⟨firstSucceeded, restSucceeded⟩
            exact .inr ⟨firstSucceeded, before, item, after, rfl, restSucceeded, failed⟩

namespace Grammar

variable {τ : Type} [Turtle τ] {grammar : Grammar} {turtle : τ}

theorem operationOf_eq_error_iff {symbol : Symbol} {problem : RenderError} :
    grammar.operationOf turtle symbol = .error problem ↔
      ∃ name, problem = .unknownAction symbol.char name ∧
        grammar.action? symbol = some name ∧ Turtle.resolve? turtle name = none := by
  unfold operationOf
  cases bound : grammar.action? symbol with
  | none => simp
  | some name =>
      constructor
      · intro failed
        cases resolved : Turtle.resolve? turtle name with
        | none =>
            simp only [resolved, Except.error.injEq] at failed
            exact ⟨name, failed.symm, rfl, resolved⟩
        | some operation => simp [resolved] at failed
      · rintro ⟨_, rfl, same, unknown⟩
        cases same
        simp [unknown]

theorem exists_operationOf_iff {symbol : Symbol} :
    (∃ operation, grammar.operationOf turtle symbol = .ok operation) ↔
      ∀ name ∈ grammar.action? symbol, (Turtle.resolve? turtle name).isSome := by
  unfold operationOf
  cases bound : grammar.action? symbol with
  | none => simp
  | some name => cases resolved : Turtle.resolve? turtle name <;> simp [resolved]

/-- No table can be made just if there is a first symbol bound to an unknown name, which is told. -/
theorem operationTable_eq_error_iff {problem : RenderError} :
    grammar.operationTable turtle = .error problem ↔
      ∃ symbol name, problem = .unknownAction symbol.char name ∧
        grammar.IsFirstUnknown turtle symbol name := by
  have fails : grammar.operationTable turtle = .error problem ↔
      grammar.alphabet.symbols.mapM (grammar.operationOf turtle) = .error problem := by
    rw [operationTable]
    cases grammar.alphabet.symbols.mapM (grammar.operationOf turtle) <;> simp [Except.map]
  rw [fails, mapM_eq_error_iff]
  simp only [exists_operationOf_iff, operationOf_eq_error_iff]
  constructor
  · rintro ⟨before, symbol, after, split, known, name, told, bound, unknown⟩
    exact ⟨symbol, name, told, bound, unknown, before, after, split, known⟩
  · rintro ⟨symbol, name, told, bound, unknown, before, after, split, known⟩
    exact ⟨before, symbol, after, split, known, name, told, bound, unknown⟩

/-- If a turtle does not know all names, there is a first one. -/
theorem exists_isFirstUnknown_iff :
    (∃ symbol name, grammar.IsFirstUnknown turtle symbol name) ↔ ¬grammar.IsKnownTo turtle := by
  constructor
  · rintro ⟨symbol, name, bound, unknown, before, after, split, _⟩ known
    have resolved := known symbol (by simp [split]) name bound
    rw [unknown] at resolved
    contradiction
  · intro notKnown
    cases made : grammar.operationTable turtle with
    | ok table => exact absurd (isKnownTo_of_operationTable made) notKnown
    | error problem =>
        rcases operationTable_eq_error_iff.mp made with ⟨symbol, name, _, first⟩
        exact ⟨symbol, name, first⟩

theorem checkActions_eq_error_iff {problem : RenderError} :
    grammar.checkActions turtle = .error problem ↔
      grammar.operationTable turtle = .error problem := by
  rw [checkActions]
  cases grammar.operationTable turtle <;> simp [Except.map]

section Rendering

variable {ρ : Type} [RandomSource ρ] {word : Word}

theorem renderFrom_eq_error_iff {rounds : Nat} {source : ρ} {problem : RenderError} :
    grammar.renderFrom turtle word rounds source = .error problem ↔
      grammar.operationTable turtle = .error problem := by
  rw [renderFrom]
  cases grammar.operationTable turtle <;> simp [bind, Except.bind, pure, Except.pure]

theorem render_eq_error_iff {rounds : Int} {problem : RenderError} :
    grammar.render turtle word rounds = .error problem ↔
      (rounds < 0 ∧ problem = .negativeRounds rounds) ∨
        (0 ≤ rounds ∧ grammar.operationTable turtle = .error problem) := by
  by_cases negative : rounds < 0
  · simp [render, negative, Int.not_le.mpr negative, eq_comm]
  · simp [render, negative, Int.not_lt.mp negative, renderFrom_eq_error_iff]

end Rendering

/--
Drawing is refused for bad arguments and for nothing else, and then nothing has been done.
The number of rounds is told if it is negative; else, if the turtle does not know all names,
the first symbol bound to an unknown name is told with this name, whatever word is drawn;
else the word is drawn. A turtle that is held and told to draw is left as it was on any
refusal and has received no call, and a source that is held is left as it was too. Checking
the names alone tells the same problem in the same cases.
-/
theorem render_refuses_iff (grammar : Grammar) (turtle : τ) (word : Word) :
    (∀ rounds given, grammar.render turtle word rounds = .error (.negativeRounds given) ↔
      rounds < 0 ∧ given = rounds) ∧
    (∀ rounds char name, grammar.render turtle word rounds = .error (.unknownAction char name) ↔
      0 ≤ rounds ∧ ∃ symbol, symbol.char = char ∧ grammar.IsFirstUnknown turtle symbol name) ∧
    ((∃ symbol name, grammar.IsFirstUnknown turtle symbol name) ↔ ¬grammar.IsKnownTo turtle) ∧
    (∀ rounds, (∃ rendering, grammar.render turtle word rounds = .ok rendering) ↔
      0 ≤ rounds ∧ grammar.IsKnownTo turtle) ∧
    (∀ rounds, (grammar.renderInPlace word rounds).run turtle =
      match grammar.render turtle word rounds with
      | .ok rendering => (.ok rendering.box, rendering.turtle)
      | .error problem => (.error problem, turtle)) ∧
    (∀ rounds problem, grammar.render turtle word rounds = .error problem →
      ((grammar.renderInPlace word rounds).run (RecordingTurtle.ofTurtle turtle)).2.calls = #[]) ∧
    (∀ problem, grammar.checkActions turtle = .error problem ↔
      ∃ symbol name, problem = .unknownAction symbol.char name ∧
        grammar.IsFirstUnknown turtle symbol name) ∧
    (∀ (ρ : Type) [RandomSource ρ] (source : ρ) (rounds : Nat),
      (∀ problem, grammar.renderFrom turtle word rounds source = .error problem ↔
        grammar.checkActions turtle = .error problem) ∧
      (grammar.renderFromInPlace word rounds).run (turtle, source) =
        match grammar.renderFrom turtle word rounds source with
        | .ok rendering => (.ok rendering.box, rendering.turtle, rendering.source)
        | .error problem => (.error problem, turtle, source)) := by
  refine ⟨?_, ?_, exists_isFirstUnknown_iff, fun _ => exists_render_iff,
    grammar.run_renderInPlace turtle word, ?_,
    fun _ => checkActions_eq_error_iff.trans operationTable_eq_error_iff, ?_⟩
  · intro rounds given
    rw [render_eq_error_iff, operationTable_eq_error_iff]
    simp
  · intro rounds char name
    rw [render_eq_error_iff, operationTable_eq_error_iff]
    simp only [reduceCtorEq, and_false, false_or, RenderError.unknownAction.injEq]
    refine and_congr_right fun _ => exists_congr fun symbol => ?_
    constructor
    · rintro ⟨_, ⟨told, rfl⟩, first⟩
      exact ⟨told.symm, first⟩
    · rintro ⟨told, first⟩
      exact ⟨name, ⟨told.symm, rfl⟩, first⟩
  · intro rounds problem refused
    have reason := render_eq_error_iff.mp refused
    -- A recording turtle knows the names that the turtle it passes calls on to knows.
    have refusedRecorded :
        grammar.render (RecordingTurtle.ofTurtle turtle) word rounds = .error problem :=
      render_eq_error_iff.mpr reason
    rw [run_renderInPlace, refusedRecorded]
    rfl
  · intro ρ _ source rounds
    exact ⟨fun _ => renderFrom_eq_error_iff.trans checkActions_eq_error_iff.symm,
      grammar.run_renderFromInPlace turtle word rounds source⟩

/-- A grammar with two unknown names, both bound to symbols that its words never reach. -/
def strayNames : List GrammarEdit :=
  [.setAction '[' "push", .setAction 'Z' "fly", .setAction '+' "spin", .addRule 'F' "FF",
    .setInitiator "F"]

theorem render_refuses_iff_strayNames :
    (ofEdits strayNames).render SilentTurtle.standard (ofEdits strayNames).initiator (-1) =
        .error (.negativeRounds (-1)) ∧
      (ofEdits strayNames).render SilentTurtle.standard (ofEdits strayNames).initiator 2 =
        .error (.unknownAction 'Z' "fly") ∧
      (((ofEdits strayNames).renderInPlace (ofEdits strayNames).initiator 2).run
        (RecordingTurtle.ofTurtle SilentTurtle.standard)).2.calls = #[] := by
  rcases render_refuses_iff (ofEdits strayNames) SilentTurtle.standard
    (ofEdits strayNames).initiator with ⟨negative, unknown, _, _, _, untold, _⟩
  have stray : (ofEdits strayNames).IsFirstUnknown SilentTurtle.standard ⟨1, 'Z'⟩ "fly" :=
    ⟨by decide, by decide, [⟨0, '['⟩], [⟨2, '+'⟩, ⟨3, 'F'⟩], by decide, by decide⟩
  have refused := (unknown 2 'Z' "fly").mpr ⟨by decide, ⟨1, 'Z'⟩, rfl, stray⟩
  exact ⟨(negative (-1) (-1)).mpr ⟨by decide, rfl⟩, refused, untold 2 _ refused⟩

end Grammar

end Lindenmayer
