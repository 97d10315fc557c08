import Lindenmayer.Grammar.Execution
import Lindenmayer.Proofs.Alphabet.Interning

/-!
# Operation tables

A table of operations is made from the alphabet before a rendering begins. For the
symbols of the alphabet it says what their action names and the convention say. It can
be made just if the turtle knows the names, and this decides about the rendering: once
there is a table, nothing can go wrong.
-/

namespace Lindenmayer

/-- Computing over a list succeeds when it succeeds on each item, with the items' results. -/
theorem mapM_eq_ok_iff {α β ε : Type} {compute : α → Except ε β} {items : List α}
    {results : List β} :
    items.mapM compute = .ok results ↔ items.map compute = results.map .ok := by
  induction items generalizing results with
  | nil => cases results <;> simp [pure, Except.pure]
  | cons item rest inductionHypothesis =>
      rw [List.mapM_cons]
      cases results with
      | nil =>
          cases compute item <;> cases rest.mapM compute <;>
            simp [bind, Except.bind, pure, Except.pure]
      | cons first further =>
          have restResults := @inductionHypothesis further
          simp only [List.map_cons, List.cons.injEq, ← restResults]
          cases compute item <;> cases rest.mapM compute <;>
            simp [bind, Except.bind, pure, Except.pure]

theorem exists_map_eq_map_ok {α β ε : Type} {compute : α → Except ε β} {items : List α}
    (each : ∀ item ∈ items, ∃ result, compute item = .ok result) :
    ∃ results : List β, items.map compute = results.map .ok := by
  induction items with
  | nil => exact ⟨[], rfl⟩
  | cons item rest inductionHypothesis =>
      rcases each item (by simp) with ⟨result, computed⟩
      rcases inductionHypothesis fun other otherMem => each other (by simp [otherMem]) with
        ⟨results, restComputed⟩
      exact ⟨result :: results, by simp [computed, restComputed]⟩

namespace Grammar

variable {τ : Type} [Turtle τ] {grammar : Grammar} {turtle : τ}

/-- Each symbol of the alphabet has an operation for a turtle that knows the names. -/
theorem IsKnownTo.exists_operationOf (known : grammar.IsKnownTo turtle) {symbol : Symbol}
    (listed : symbol ∈ grammar.alphabet.symbols) :
    ∃ operation, grammar.operationOf turtle symbol = .ok operation := by
  unfold operationOf
  split
  · exact ⟨_, rfl⟩
  · rename_i name bound
    rcases Option.isSome_iff_exists.mp (known symbol listed name bound) with ⟨operation, resolved⟩
    exact ⟨operation, by rw [resolved]⟩

/-- The table of a turtle that knows all names can be made. -/
theorem IsKnownTo.exists_operationTable (known : grammar.IsKnownTo turtle) :
    ∃ table, grammar.operationTable turtle = .ok table := by
  rcases exists_map_eq_map_ok fun _ listed => known.exists_operationOf listed with
    ⟨operations, resolved⟩
  refine ⟨operations.toArray, ?_⟩
  rw [operationTable, mapM_eq_ok_iff.mpr resolved]
  rfl

/-- The table agrees with resolving a symbol of the alphabet on its own. -/
theorem operationOf_of_operationTable {table : OperationTable}
    (made : grammar.operationTable turtle = .ok table) {symbol : Symbol}
    (listed : symbol ∈ grammar.alphabet.symbols) :
    grammar.operationOf turtle symbol = .ok (table.operationOf symbol) := by
  rw [operationTable] at made
  cases computed : grammar.alphabet.symbols.mapM (grammar.operationOf turtle) with
  | error problem => simp [computed, Except.map] at made
  | ok operations =>
      simp only [computed, Except.map, Except.ok.injEq] at made
      subst table
      have resolved := congrArg (·[symbol.id]?) (mapM_eq_ok_iff.mp computed)
      simp only [List.getElem?_map, Alphabet.getElem?_symbols_of_mem listed] at resolved
      cases found : operations[symbol.id]? with
      | none => simp [found] at resolved
      | some operation =>
          simp only [found, Option.map_some, Option.some.injEq] at resolved
          rw [resolved]
          simp [OperationTable.operationOf, found]

/-- A word over the alphabet is resolved by looking its symbols up in the table. -/
theorem map_operationOf_of_operationTable {table : OperationTable}
    (made : grammar.operationTable turtle = .ok table) {word : Word}
    (listed : grammar.alphabet.Lists word) :
    word.map (grammar.operationOf turtle) = (word.map table.operationOf).map .ok := by
  rw [List.map_map]
  apply List.map_congr_left
  intro symbol symbolMem
  exact operationOf_of_operationTable made (listed symbol symbolMem)

/-- A table can be made for no other turtle. -/
theorem isKnownTo_of_operationTable {table : OperationTable}
    (made : grammar.operationTable turtle = .ok table) : grammar.IsKnownTo turtle := by
  intro symbol listed name bound
  have resolved := operationOf_of_operationTable made listed
  rw [operationOf, Option.mem_def.mp bound] at resolved
  cases found : Turtle.resolve? turtle name with
  | none => simp [found] at resolved
  | some operation => rfl

section Success

variable {ρ : Type} [RandomSource ρ] {word : Word}

theorem renderFrom_eq_ok_iff {rounds : Nat} {source : ρ} {rendering : Rendering τ ρ} :
    grammar.renderFrom turtle word rounds source = .ok rendering ↔
      ∃ table, grammar.operationTable turtle = .ok table ∧
        rendering = grammar.walk table rounds word (.start turtle source) := by
  cases made : grammar.operationTable turtle with
  | error problem => simp [renderFrom, made, bind, Except.bind]
  | ok table => simp [renderFrom, made, bind, Except.bind, pure, Except.pure, eq_comm]

theorem render_eq_ok_iff {rounds : Int} {rendering : Rendering τ ChaCha.Stream} :
    grammar.render turtle word rounds = .ok rendering ↔
      0 ≤ rounds ∧
        grammar.renderFrom turtle word rounds.toNat grammar.randomStream = .ok rendering := by
  by_cases negative : rounds < 0
  · simp [render, negative, Int.not_le.mpr negative]
  · simp [render, negative, Int.not_lt.mp negative]

/-- Rendering fails for a negative number of rounds and for unknown names, and for nothing else. -/
theorem exists_render_iff {rounds : Int} :
    (∃ rendering, grammar.render turtle word rounds = .ok rendering) ↔
      0 ≤ rounds ∧ grammar.IsKnownTo turtle := by
  constructor
  · rintro ⟨rendering, rendered⟩
    rcases render_eq_ok_iff.mp rendered with ⟨someRounds, renderedFrom⟩
    rcases renderFrom_eq_ok_iff.mp renderedFrom with ⟨table, made, _⟩
    exact ⟨someRounds, isKnownTo_of_operationTable made⟩
  · rintro ⟨someRounds, known⟩
    rcases known.exists_operationTable with ⟨table, made⟩
    exact ⟨_, render_eq_ok_iff.mpr ⟨someRounds, renderFrom_eq_ok_iff.mpr ⟨table, made, rfl⟩⟩⟩

end Success

end Grammar

end Lindenmayer
