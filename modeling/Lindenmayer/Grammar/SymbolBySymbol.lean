import Lindenmayer.Grammar.Render

/-!
# Symbol by symbol

A symbol may be executed on its own, which resolves it there and then, or be drawn as a
word of one symbol, which looks it up in a table that is made beforehand. Both are things
done to a turtle. To tell what such an act amounts to, one turtle is not enough: drawing
and moving are the same to a turtle that draws nothing. But an act that performs one
operation on all turtles with the same names is the performing of that operation.
-/

namespace Lindenmayer

/-- Something done to a turtle, of whatever type it is. -/
abbrev TurtleAct : Type 1 := (τ : Type) → [Turtle τ] → τ → Except RenderError τ

/-- Whether an act comes to performing an operation, for all turtles that know certain names. -/
def TurtleAct.Performs (act : TurtleAct) (names : String → Option Operation)
    (operation : Operation) : Prop :=
  ∀ (τ : Type) [Turtle τ] (turtle : τ), (∀ name, Turtle.resolve? turtle name = names name) →
    act τ turtle = .ok (Turtle.apply turtle operation)

namespace Grammar

def executing (grammar : Grammar) (symbol : Symbol) : TurtleAct :=
  fun _ _ turtle => grammar.execute turtle symbol

/-- Drawing a symbol without deriving anything from it. -/
def drawing {ρ : Type} [RandomSource ρ] (grammar : Grammar) (symbol : Symbol) (source : ρ) :
    TurtleAct :=
  fun _ _ turtle => (grammar.renderFrom turtle [symbol] 0 source).map Rendering.turtle

/-- Executes the symbols of a word one after the other. -/
def executeAll {τ : Type} [Turtle τ] (grammar : Grammar) (turtle : τ) (word : Word) :
    Except RenderError τ :=
  word.foldlM grammar.execute turtle

end Grammar

end Lindenmayer
