import Lindenmayer.Geometry.Box
import Lindenmayer.Grammar.Basic
import Lindenmayer.Turtle.Basic

/-!
# Drawing a grammar

Rendering drives a turtle through a number of rounds of derivation without ever
building the derived word: each symbol is replaced by one of its bodies, and the
body is gone through in place with one round less. When no round is left symbols
are executed. A terminal is executed where it is first met, however many rounds
are left.

All action names are resolved before the turtle moves, those of symbols that
will not be met included. On failure there is no rendering, hence nothing has
moved and no random word has been drawn.
-/

namespace Lindenmayer

inductive RenderError where
  | negativeRounds (rounds : Int)
  | unknownAction (symbol : Char) (name : String)
deriving DecidableEq, Repr

def RenderError.message : RenderError → String
  | .negativeRounds rounds =>
    s!"invalid argument: iteration count must be non-negative, got {rounds}"
  | .unknownAction symbol name =>
    s!"unknown action `{name}` bound to symbol `{symbol}`"

/-- How far a rendering has come. -/
structure Rendering (τ ρ : Type) where
  turtle : τ
  source : ρ
  /-- Covers every point visited, the starting point included. -/
  box : Box
  executed : Nat

namespace Rendering

variable {τ ρ : Type} [Turtle τ]

def start (turtle : τ) (source : ρ) : Rendering τ ρ where
  turtle := turtle
  source := source
  box := .singleton (Turtle.position turtle)
  executed := 0

def execute (rendering : Rendering τ ρ) (operation : Operation) : Rendering τ ρ :=
  let turtle := Turtle.apply rendering.turtle operation
  { rendering with
    turtle
    box := rendering.box.insert (Turtle.position turtle)
    executed := rendering.executed + 1 }

end Rendering

abbrev OperationTable := Array Operation

/-- The operation of a symbol; by convention for symbols past the end of the table. -/
def OperationTable.operationOf (table : OperationTable) (symbol : Symbol) : Operation :=
  table[symbol.id]?.getD (.conventional symbol.char)

namespace Grammar

variable {τ ρ : Type} [Turtle τ] [RandomSource ρ]

/-- The operation of a symbol: that of its action name, or by convention if it has none. -/
def operationOf (grammar : Grammar) (turtle : τ) (symbol : Symbol) :
    Except RenderError Operation :=
  match grammar.action? symbol with
  | none => .ok (.conventional symbol.char)
  | some name =>
    match Turtle.resolve? turtle name with
    | some operation => .ok operation
    | none => .error (.unknownAction symbol.char name)

/-- Resolves all symbols, failing at the first one whose name the turtle does not know. -/
def operationTable (grammar : Grammar) (turtle : τ) : Except RenderError OperationTable :=
  (grammar.alphabet.symbols.mapM (grammar.operationOf turtle)).map List.toArray

def checkActions (grammar : Grammar) (turtle : τ) : Except RenderError Unit :=
  (grammar.operationTable turtle).map fun _ => ()

def execute (grammar : Grammar) (turtle : τ) (symbol : Symbol) : Except RenderError τ :=
  (grammar.operationOf turtle symbol).map (Turtle.apply turtle)

/-- Goes through a word with the given number of rounds left. -/
def walk (grammar : Grammar) (table : OperationTable) :
    (rounds : Nat) → Word → Rendering τ ρ → Rendering τ ρ
  | 0, word, rendering =>
    word.foldl (fun rendering symbol => rendering.execute (table.operationOf symbol)) rendering
  | rounds + 1, word, rendering =>
    word.foldl
      (fun rendering symbol =>
        match grammar.chooseBody symbol rendering.source with
        | (some body, source) => walk grammar table rounds body { rendering with source }
        | (none, source) => { rendering with source }.execute (table.operationOf symbol))
      rendering

theorem walk_succ_cons_terminal (grammar : Grammar) (table : OperationTable) (rounds : Nat)
    (symbol : Symbol) (rest : Word) (rendering : Rendering τ ρ)
    (terminal : grammar.alternatives symbol = []) :
    grammar.walk table (rounds + 1) (symbol :: rest) rendering =
      grammar.walk table (rounds + 1) rest (rendering.execute (table.operationOf symbol)) := by
  simp [walk, chooseBody_of_terminal terminal]

theorem walk_succ_cons_chosen (grammar : Grammar) (table : OperationTable) (rounds : Nat)
    (symbol : Symbol) (rest : Word) (rendering : Rendering τ ρ) (chosenSource : ρ) (body : Word)
    (chosen : grammar.chooseBody symbol rendering.source = (some body, chosenSource)) :
    grammar.walk table (rounds + 1) (symbol :: rest) rendering =
      grammar.walk table (rounds + 1) rest
        (grammar.walk table rounds body { rendering with source := chosenSource }) := by
  simp [walk, chosen]

/-- Draws a word after some rounds of derivation, taking choices from the given source. -/
def renderFrom (grammar : Grammar) (turtle : τ) (word : Word) (rounds : Nat) (source : ρ) :
    Except RenderError (Rendering τ ρ) := do
  let table ← grammar.operationTable turtle
  return grammar.walk table rounds word (.start turtle source)

/-- Draws a word after some rounds of derivation, taking choices from the grammar's own stream. -/
def render (grammar : Grammar) (turtle : τ) (word : Word) (rounds : Int) :
    Except RenderError (Rendering τ ChaCha.Stream) :=
  if rounds < 0 then .error (.negativeRounds rounds)
  else grammar.renderFrom turtle word rounds.toNat grammar.randomStream

def renderInitiator (grammar : Grammar) (turtle : τ) (rounds : Int) :
    Except RenderError (Rendering τ ChaCha.Stream) :=
  grammar.render turtle grammar.initiator rounds

end Grammar

end Lindenmayer
