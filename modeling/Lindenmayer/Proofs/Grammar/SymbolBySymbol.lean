import Lindenmayer.Grammar.SymbolBySymbol
import Lindenmayer.Proofs.Grammar.Concatenation
import Lindenmayer.Proofs.Grammar.Construction
import Lindenmayer.Turtle.Recording

/-!
# Executing on its own and drawing from the table

The table of operations has an entry for each number that the alphabet has given away. A
symbol of another grammar may bear such a number with another character. If the number is
bound to a name, the character does not matter; if it is not, executing the symbol goes by
its own character and drawing it by the character that the alphabet lists there. Past the
end of the table nothing is bound, and both ways go by the symbol's own character.

For symbols of the grammar itself the two characters are one. A word of them is therefore
drawn as it is executed symbol by symbol, by a turtle that does not unlearn its names.
Silent and tracing turtles never do.
-/

namespace Lindenmayer

section Acts

/-- The operation that a call stands for. -/
def TurtleCall.operation? : TurtleCall → Option Operation
  | draw => some .draw
  | jump => some .move
  | turnLeft => some .turnLeft
  | turnRight => some .turnRight
  | push => some .push
  | pop => some .pop
  | stay => some .stay
  | _ => none

/-- What a recording turtle has written down tells which operation it has performed. -/
theorem RecordingTurtle.apply_ofTurtle_injective {τ : Type} [Turtle τ] (turtle : τ) :
    Function.Injective (Turtle.apply (RecordingTurtle.ofTurtle turtle)) := by
  apply Function.LeftInverse.injective
    (g := fun recorder => (recorder.calls[0]?.bind TurtleCall.operation?).getD .stay)
  intro operation
  cases operation <;> rfl

/-- An act is the performing of one operation at most. -/
theorem TurtleAct.Performs.unique {act : TurtleAct} {τ : Type} [Turtle τ] {turtle : τ}
    {operation other : Operation} (performs : act.Performs (Turtle.resolve? turtle) operation)
    (performsOther : act.Performs (Turtle.resolve? turtle) other) : operation = other := by
  have performed := performs _ (RecordingTurtle.ofTurtle turtle) fun _ => rfl
  rw [performsOther _ (RecordingTurtle.ofTurtle turtle) fun _ => rfl, Except.ok.injEq] at performed
  exact (RecordingTurtle.apply_ofTurtle_injective turtle performed).symm

theorem TurtleAct.Performs.iff_eq {act : TurtleAct} {τ : Type} [Turtle τ] {turtle : τ}
    {operation : Operation} (performs : act.Performs (Turtle.resolve? turtle) operation)
    (other : Operation) : act.Performs (Turtle.resolve? turtle) other ↔ other = operation := by
  constructor
  · intro performsOther
    exact performsOther.unique performs
  · rintro rfl
    exact performs

end Acts

namespace Grammar

variable {τ ρ : Type} [Turtle τ] [RandomSource ρ] {grammar : Grammar} {turtle : τ}
  {table : OperationTable} {symbol : Symbol}

section Table

theorem size_operationTable (made : grammar.operationTable turtle = .ok table) :
    table.size = grammar.alphabet.size := by
  rw [operationTable] at made
  cases computed : grammar.alphabet.symbols.mapM (grammar.operationOf turtle) with
  | error problem => simp [computed, Except.map] at made
  | ok operations =>
      simp only [computed, Except.map, Except.ok.injEq] at made
      subst table
      have sameLength := congrArg List.length (mapM_eq_ok_iff.mp computed)
      simpa [Alphabet.symbols, Alphabet.size] using sameLength.symm

/-- The table is asked for a number; the character counts past its end only. -/
theorem operationOf_eq_of_id_eq {other : Symbol} (sameId : symbol.id = other.id)
    (inside : symbol.id < table.size) : table.operationOf symbol = table.operationOf other := by
  simp only [OperationTable.operationOf, ← sameId, Array.getElem?_eq_getElem inside,
    Option.getD_some]

theorem operationOf_of_size_le (outside : table.size ≤ symbol.id) :
    table.operationOf symbol = .conventional symbol.char := by
  rw [OperationTable.operationOf, Array.getElem?_eq_none outside, Option.getD_none]

/-- What the alphabet lists under the number of a symbol is a symbol of the alphabet. -/
theorem mem_symbols_of_charOf? {own : Char} (found : grammar.alphabet.charOf? symbol = some own) :
    ⟨symbol.id, own⟩ ∈ grammar.alphabet.symbols :=
  Alphabet.mem_symbols_iff.mpr found

theorem operationOf_of_action?_eq_none (unbound : grammar.action? symbol = none) :
    grammar.operationOf turtle symbol = .ok (.conventional symbol.char) := by
  rw [operationOf, unbound]

/--
A symbol has an operation on its own, and it is that of the table unless the convention tells
its character from the one that is listed under its number.
-/
theorem exists_operationOf_eq_table_iff (confined : grammar.IsConfined)
    (made : grammar.operationTable turtle = .ok table) (symbol : Symbol) :
    ∃ alone, grammar.operationOf turtle symbol = .ok alone ∧
      (alone = table.operationOf symbol ↔
        (grammar.action? symbol).isSome ∨ grammar.alphabet.size ≤ symbol.id ∨
          ∃ own, grammar.alphabet.charOf? symbol = some own ∧
            Operation.conventional own = Operation.conventional symbol.char) := by
  cases listed : grammar.alphabet.charOf? symbol with
  | none =>
      have outside : grammar.alphabet.size ≤ symbol.id := List.getElem?_eq_none_iff.mp listed
      have unbound : grammar.action? symbol = none := confined.actions symbol outside
      refine ⟨_, operationOf_of_action?_eq_none unbound, ?_⟩
      rw [operationOf_of_size_le (by rw [size_operationTable made]; exact outside)]
      simp [outside]
  | some own =>
      have ownListed := mem_symbols_of_charOf? listed
      have inside := Alphabet.id_lt_size_of_mem ownListed
      have sameEntry : table.operationOf symbol = table.operationOf ⟨symbol.id, own⟩ :=
        operationOf_eq_of_id_eq rfl (by rw [size_operationTable made]; exact inside)
      have resolved := operationOf_of_operationTable made ownListed
      rw [← sameEntry] at resolved
      -- A name is bound to a number, so the symbol and the listed one are bound alike.
      have sameName : grammar.action? ⟨symbol.id, own⟩ = grammar.action? symbol := rfl
      cases bound : grammar.action? symbol with
      | none =>
          rw [operationOf_of_action?_eq_none (sameName.trans bound), Except.ok.injEq] at resolved
          refine ⟨_, operationOf_of_action?_eq_none bound, ?_⟩
          simp [← resolved, Nat.not_le.mpr inside, eq_comm]
      | some name =>
          refine ⟨table.operationOf symbol, ?_, by simp⟩
          rw [operationOf, sameName, bound] at resolved
          rw [operationOf, bound]
          cases known : Turtle.resolve? turtle name with
          | none => simp [known] at resolved
          | some operation => simpa [known] using resolved

end Table

section Acts

theorem performs_executing {operation : Operation}
    (resolved : grammar.operationOf turtle symbol = .ok operation) :
    (grammar.executing symbol).Performs (Turtle.resolve? turtle) operation := by
  intro τ' _ other sameNames
  rw [executing, execute, operationOf_congr sameNames, resolved]
  rfl

theorem performs_drawing (made : grammar.operationTable turtle = .ok table) (symbol : Symbol)
    (source : ρ) :
    (grammar.drawing symbol source).Performs (Turtle.resolve? turtle)
      (table.operationOf symbol) := by
  intro τ' _ other sameNames
  rw [drawing, renderFrom, operationTable_congr sameNames, made]
  rfl

/-- A turtle that keeps its names executes a word of the grammar's symbols by the table. -/
theorem executeAll_eq_ok (made : grammar.operationTable turtle = .ok table)
    (keeps : ∀ operations name,
      Turtle.resolve? (Turtle.applyAll turtle operations) name = Turtle.resolve? turtle name)
    {word : Word} (listed : grammar.alphabet.Lists word) :
    grammar.executeAll turtle word =
      .ok (Turtle.applyAll turtle (word.map table.operationOf)) := by
  induction word generalizing turtle with
  | nil => rfl
  | cons symbol rest inductionHypothesis =>
      rw [Alphabet.lists_cons] at listed
      have executed : grammar.execute turtle symbol =
          .ok (Turtle.apply turtle (table.operationOf symbol)) := by
        rw [execute, operationOf_of_operationTable made listed.1]
        rfl
      have once := keeps [table.operationOf symbol]
      have further := inductionHypothesis ((operationTable_congr once).trans made)
        (fun operations name => (keeps (_ :: operations) name).trans (once name).symm) listed.2
      rw [executeAll, List.foldlM_cons, executed]
      exact further

/-- A word is drawn as it is executed symbol by symbol, if the turtle keeps its names. -/
theorem exists_renderFrom_executeAll (known : grammar.IsKnownTo turtle)
    (keeps : ∀ operations name,
      Turtle.resolve? (Turtle.applyAll turtle operations) name = Turtle.resolve? turtle name)
    {word : Word} (listed : grammar.alphabet.Lists word) (source : ρ) :
    ∃ rendering, grammar.renderFrom turtle word 0 source = .ok rendering ∧
      grammar.executeAll turtle word = .ok rendering.turtle := by
  rcases known.exists_operationTable with ⟨table, made⟩
  refine ⟨_, renderFrom_eq_ok_iff.mpr ⟨table, made, rfl⟩, ?_⟩
  rw [walk_start, executeAll_eq_ok made keeps listed]
  rfl

/-- Silent and tracing turtles do keep their names. -/
theorem exists_renderFrom_executeAll_of_silent_or_tracing {word : Word}
    (listed : grammar.alphabet.Lists word) (source : ρ) :
    (∀ turtle : SilentTurtle, grammar.IsKnownTo turtle →
      ∃ rendering, grammar.renderFrom turtle word 0 source = .ok rendering ∧
        grammar.executeAll turtle word = .ok rendering.turtle) ∧
    ∀ {σ : Type} [PathSink σ] (turtle : TracingTurtle σ), grammar.IsKnownTo turtle →
      ∃ rendering, grammar.renderFrom turtle word 0 source = .ok rendering ∧
        grammar.executeAll turtle word = .ok rendering.turtle := by
  constructor
  · intro turtle known
    exact exists_renderFrom_executeAll known (SilentTurtle.keepsNames.applyAll turtle) listed source
  · intro σ _ turtle known
    exact exists_renderFrom_executeAll known (TracingTurtle.keepsNames.applyAll turtle) listed source

end Acts

/--
Executing a symbol and drawing it perform one operation each, whatever grammar the symbol is
from. The operation is the same just if the number of the symbol is bound to a name, or lies past
the alphabet, or the convention makes no difference between the symbol's character and the one
that the alphabet lists under its number. Hence a word of the grammar's own symbols is drawn as it
is executed symbol by symbol, which asks for each name when its turn comes, as long as the turtle
does not change its names on the way.
-/
theorem executing_eq_drawing_iff (edits : List GrammarEdit) (turtle : τ)
    (known : (ofEdits edits).IsKnownTo turtle) (source : ρ) :
    let grammar := ofEdits edits
    let names := Turtle.resolve? turtle
    (∀ symbol : Symbol, ∃ alone drawn,
      (∀ operation, (grammar.executing symbol).Performs names operation ↔ operation = alone) ∧
      (∀ operation, (grammar.drawing symbol source).Performs names operation ↔
        operation = drawn) ∧
      (alone = drawn ↔
        (grammar.action? symbol).isSome ∨ grammar.alphabet.size ≤ symbol.id ∨
          ∃ own, grammar.alphabet.charOf? symbol = some own ∧
            Operation.conventional own = Operation.conventional symbol.char)) ∧
    ((∀ operations name,
        Turtle.resolve? (Turtle.applyAll turtle operations) name = names name) →
      ∀ word, grammar.alphabet.Lists word →
        ∃ rendering, grammar.renderFrom turtle word 0 source = .ok rendering ∧
          grammar.executeAll turtle word = .ok rendering.turtle) := by
  intro grammar names
  rcases known.exists_operationTable with ⟨table, made⟩
  constructor
  · intro symbol
    rcases exists_operationOf_eq_table_iff (isConfined_ofEdits edits) made symbol with
      ⟨alone, resolved, agrees⟩
    exact ⟨alone, table.operationOf symbol, (performs_executing resolved).iff_eq,
      (performs_drawing made symbol source).iff_eq, agrees⟩
  · intro keeps word listed
    exact exists_renderFrom_executeAll known keeps listed source

/--
Under the number of a letter that draws, a letter that moves is executed and drawn differently;
under the number of a bracket it is taken for the bracket both times.
-/
theorem executing_eq_drawing_iff_branchingPlant :
    let grammar := ofEdits branchingPlant
    let turtle := TracingTurtle.standard (#[] : Array PathCommand)
    let names := Turtle.resolve? turtle
    let source := Script.mk []
    let word : Word := [⟨3, 'F'⟩, ⟨0, '['⟩, ⟨2, '+'⟩, ⟨3, 'F'⟩, ⟨1, ']'⟩, ⟨3, 'F'⟩]
    grammar.IsKnownTo turtle ∧
      (¬∃ operation, (grammar.executing ⟨3, 'f'⟩).Performs names operation ∧
        (grammar.drawing ⟨3, 'f'⟩ source).Performs names operation) ∧
      (∃ operation, (grammar.executing ⟨0, 'f'⟩).Performs names operation ∧
        (grammar.drawing ⟨0, 'f'⟩ source).Performs names operation) ∧
      (∀ operations name,
        Turtle.resolve? (Turtle.applyAll turtle operations) name = names name) ∧
      grammar.alphabet.Lists word ∧
      ∃ rendering, grammar.renderFrom turtle word 0 source = .ok rendering ∧
        grammar.executeAll turtle word = .ok rendering.turtle := by
  intro grammar turtle names source word
  have known : grammar.IsKnownTo turtle := by decide
  have keeps := TracingTurtle.keepsNames.applyAll turtle
  have listed : grammar.alphabet.Lists word := by decide
  rcases executing_eq_drawing_iff branchingPlant turtle known source with ⟨symbols, words⟩
  refine ⟨known, ?_, ?_, keeps, listed, words keeps word listed⟩
  · rcases symbols ⟨3, 'f'⟩ with ⟨alone, drawn, executes, draws, agrees⟩
    rintro ⟨operation, executed, isDrawn⟩
    have same : alone = drawn :=
      ((executes operation).mp executed).symm.trans ((draws operation).mp isDrawn)
    rcases agrees.mp same with bound | outside | ⟨own, found, sameMeaning⟩
    · exact absurd bound (by decide)
    · exact absurd outside (by decide)
    · cases found
      exact absurd sameMeaning (by decide)
  · rcases symbols ⟨0, 'f'⟩ with ⟨alone, drawn, executes, draws, agrees⟩
    have same : alone = drawn := agrees.mpr (.inl (by decide))
    exact ⟨alone, (executes alone).mpr rfl, (draws alone).mpr same⟩

end Grammar

end Lindenmayer
