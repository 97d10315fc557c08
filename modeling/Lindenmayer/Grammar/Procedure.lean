import Lindenmayer.Grammar.Render

/-!
# Drawing in place

`Grammar.renderFrom` answers with a new turtle and a new source, or with none at all. To
somebody who holds a turtle and a source, drawing is a procedure: it works on what is
held, step by step, and what it has done stays done if it breaks off. Here drawing is
written down in this way, so that it can be asked what a failure leaves behind.
-/

namespace Lindenmayer

/-- A procedure that works on a turtle and a source, and may break off. -/
abbrev Procedure (τ ρ α : Type) := ExceptT RenderError (StateM (τ × ρ)) α

namespace Procedure

variable {τ ρ : Type} [Turtle τ] [RandomSource ρ]

/-- Resolves a symbol with the turtle as it is by then. -/
def resolve (grammar : Grammar) (symbol : Symbol) : Procedure τ ρ Operation := do
  let held ← get
  MonadExcept.ofExcept (grammar.operationOf held.1 symbol)

/-- Picks a body of a symbol; words are drawn only if there is a choice. -/
def chooseBody (grammar : Grammar) (symbol : Symbol) : Procedure τ ρ (Option Word) := do
  let held ← get
  let (body?, source) := grammar.chooseBody symbol held.2
  set (held.1, source)
  return body?

/-- Makes the turtle perform an operation, and covers the point that this leads to. -/
def execute (operation : Operation) (box : Box) : Procedure τ ρ Box := do
  modify fun held => (Turtle.apply held.1 operation, held.2)
  return box.insert (Turtle.position (← get).1)

/-- Goes on with a body of a symbol in the way given, or executes the symbol if it is a terminal. -/
def visit (grammar : Grammar) (table : OperationTable) (deeper : Word → Box → Procedure τ ρ Box)
    (box : Box) (symbol : Symbol) : Procedure τ ρ Box := do
  match ← chooseBody grammar symbol with
  | some body => deeper body box
  | none => execute (table.operationOf symbol) box

end Procedure

namespace Grammar

variable {τ ρ : Type} [Turtle τ] [RandomSource ρ]

/-- Goes through a word with the given number of rounds left, and grows a box on the way. -/
def walkInPlace (grammar : Grammar) (table : OperationTable) :
    (rounds : Nat) → Word → Box → Procedure τ ρ Box
  | 0, word, box =>
    word.foldlM (fun box symbol => Procedure.execute (table.operationOf symbol) box) box
  | rounds + 1, word, box =>
    word.foldlM (Procedure.visit grammar table (walkInPlace grammar table rounds)) box

/-- Draws a word with the turtle and the source that are held. -/
def renderFromInPlace (grammar : Grammar) (word : Word) (rounds : Nat) : Procedure τ ρ Box := do
  let operations ← grammar.alphabet.symbols.mapM (Procedure.resolve grammar)
  let held ← get
  grammar.walkInPlace operations.toArray rounds word (.singleton (Turtle.position held.1))

/-- Draws a word with the turtle that is held, taking choices from the grammar's own stream. -/
def renderInPlace (grammar : Grammar) (word : Word) (rounds : Int) :
    ExceptT RenderError (StateM τ) Box :=
  if rounds < 0 then throw (.negativeRounds rounds)
  else ExceptT.mk fun turtle =>
    let (outcome, turtle, _) :=
      (grammar.renderFromInPlace word rounds.toNat).run (turtle, grammar.randomStream)
    (outcome, turtle)

end Grammar

end Lindenmayer
