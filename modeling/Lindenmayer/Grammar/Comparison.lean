import Lindenmayer.Grammar.Construction
import Lindenmayer.Grammar.Execution

/-!
# Comparing grammars

What two grammars may have in common for one who sees characters and operations only.
Numbers of symbols, names of actions and characters that nothing makes use of play no
part in it.
-/

namespace Lindenmayer

/-- The characters of the body that an edit gives. -/
def GrammarEdit.bodyChars : GrammarEdit → List Char
  | addRule _ text => text.toList
  | _ => []

namespace Grammar

/-- Whether a character occurs in the initiator or in a body. -/
def Uses (grammar : Grammar) (char : Char) : Prop :=
  char ∈ grammar.initiator.text.toList ∨
    ∃ head, ∃ text ∈ grammar.textsOf head, char ∈ text.toList

/-- Whether two grammars start from one text and one seed and give characters the same bodies. -/
structure SameTexts (grammar other : Grammar) : Prop where
  initiator : grammar.initiator.text = other.initiator.text
  seed : grammar.seed = other.seed
  /-- The same bodies in the same order. -/
  texts : ∀ char, grammar.textsOf char = other.textsOf char

section Operations

variable {τ τ' : Type} [Turtle τ] [Turtle τ']

/-- The operation of a character; none if it has no symbol or a name that is not known. -/
def operationFor? (grammar : Grammar) (turtle : τ) (char : Char) : Option Operation :=
  (grammar.symbol? char).bind fun symbol => (grammar.operationOf turtle symbol).toOption

/--
Whether each of two turtles knows the names of its grammar, and the characters in use
stand for the same operations.
-/
structure SameOperations (grammar other : Grammar) (turtle : τ) (otherTurtle : τ') : Prop where
  known : grammar.IsKnownTo turtle
  otherKnown : other.IsKnownTo otherTurtle
  operations : ∀ char, grammar.Uses char →
    grammar.operationFor? turtle char = other.operationFor? otherTurtle char

end Operations

end Grammar

end Lindenmayer
