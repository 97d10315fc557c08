import Lindenmayer.Grammar.Render

/-!
# What a rendering executes

A rendering carries a turtle, a box and a count on its way through a word. Two
things are said here about it apart from each other.

* `Grammar.traverse` goes the same way with any visitor in place of the turtle;
  `Grammar.executed` is what the visitor that writes symbols down has got in the
  end.
* `Grammar.Executes` says what it is for a rendering to have executed the symbols
  of a word. No rules of the grammar and no choices occur in it.
-/

namespace Lindenmayer

def Turtle.trail {τ : Type} [Turtle τ] (turtle : τ) : List Operation → List Point
  | [] => []
  | operation :: rest =>
    Turtle.position (Turtle.apply turtle operation) ::
      Turtle.trail (Turtle.apply turtle operation) rest

def Box.covering (start : Point) (points : List Point) : Box :=
  points.foldl Box.insert (.singleton start)

namespace Grammar

variable {τ ρ : Type} [Turtle τ] [RandomSource ρ]

/-- Goes through a word as a rendering does and shows a visitor each symbol to be executed. -/
def traverse {α : Type} (grammar : Grammar) (visit : α → Symbol → α) :
    (rounds : Nat) → Word → α × ρ → α × ρ
  | 0, word, (seen, source) => (word.foldl visit seen, source)
  | rounds + 1, word, state =>
    word.foldl
      (fun (seen, source) symbol =>
        match grammar.chooseBody symbol source with
        | (some body, source) => traverse grammar visit rounds body (seen, source)
        | (none, source) => (visit seen symbol, source))
      state

theorem traverse_succ_cons_terminal {α : Type} (grammar : Grammar) (visit : α → Symbol → α)
    (rounds : Nat) (symbol : Symbol) (rest : Word) (seen : α) (source : ρ)
    (terminal : grammar.alternatives symbol = []) :
    grammar.traverse visit (rounds + 1) (symbol :: rest) (seen, source) =
      grammar.traverse visit (rounds + 1) rest (visit seen symbol, source) := by
  simp [traverse, chooseBody_of_terminal terminal]

theorem traverse_succ_cons_chosen {α : Type} (grammar : Grammar) (visit : α → Symbol → α)
    (rounds : Nat) (symbol : Symbol) (rest : Word) (seen : α) (source chosenSource : ρ)
    (body : Word) (chosen : grammar.chooseBody symbol source = (some body, chosenSource)) :
    grammar.traverse visit (rounds + 1) (symbol :: rest) (seen, source) =
      grammar.traverse visit (rounds + 1) rest
        (grammar.traverse visit rounds body (seen, chosenSource)) := by
  simp [traverse, chosen]

/-- The symbols executed when a word is rendered, in order. -/
def executed (grammar : Grammar) (rounds : Nat) (word : Word) (source : ρ) : Word :=
  (grammar.traverse (fun seen symbol => seen ++ [symbol]) rounds word ([], source)).1

/-- The points a rendering visits: the starting point, and where each executed symbol leads. -/
def visited (grammar : Grammar) (turtle : τ) (rounds : Nat) (word : Word) (source : ρ) :
    List Point :=
  match grammar.operationTable turtle with
  | .error _ => []
  | .ok table =>
    Turtle.position turtle ::
      Turtle.trail turtle ((grammar.executed rounds word source).map table.operationOf)

/-- Whether a turtle knows all action names that the grammar binds to its symbols. -/
def IsKnownTo (grammar : Grammar) (turtle : τ) : Prop :=
  ∀ symbol ∈ grammar.alphabet.symbols, ∀ name ∈ grammar.action? symbol,
    (Turtle.resolve? turtle name).isSome

instance (grammar : Grammar) (turtle : τ) : Decidable (grammar.IsKnownTo turtle) :=
  inferInstanceAs (Decidable (∀ symbol ∈ grammar.alphabet.symbols, ∀ name ∈ grammar.action? symbol,
    (Turtle.resolve? turtle name).isSome))

/--
Whether a symbol is the first one of the alphabet, in the order of first mention, to be
bound to a name that a turtle does not know; the name is that one.
-/
structure IsFirstUnknown (grammar : Grammar) (turtle : τ) (symbol : Symbol) (name : String) :
    Prop where
  bound : grammar.action? symbol = some name
  unknown : Turtle.resolve? turtle name = none
  first : ∃ before after, grammar.alphabet.symbols = before ++ symbol :: after ∧
    ∀ earlier ∈ before, ∀ other ∈ grammar.action? earlier, (Turtle.resolve? turtle other).isSome

/--
Whether a rendering is what comes of executing the symbols of a word from a
turtle: the operation of each symbol is performed once and in order, and the
point it leads to is covered.
-/
def Executes (grammar : Grammar) (turtle : τ) (word : Word) (rendering : Rendering τ ρ) : Prop :=
  ∃ operations : List Operation,
    word.map (grammar.operationOf turtle) = operations.map .ok ∧
    rendering.turtle = Turtle.applyAll turtle operations ∧
    rendering.box = .covering (Turtle.position turtle) (Turtle.trail turtle operations) ∧
    rendering.executed = word.length

end Grammar

end Lindenmayer
