import Lindenmayer.Random.ChaCha
import Lindenmayer.SymbolMap

/-!
# Grammars

A grammar owns its alphabet, the word it starts from, the alternative bodies and
the action names of its symbols, and the seed of its random choices. It is built
up by naming characters; every character that is mentioned anywhere, in a
binding, in the initiator or in a body, becomes a symbol at its first mention.

A symbol without bodies is a terminal. Bodies accumulate: a symbol with several
of them is replaced by one picked at random each time.
-/

namespace Lindenmayer

/-- A Lindenmayer system, deterministic or stochastic. -/
structure Grammar where
  alphabet : Alphabet
  actions : SymbolMap (Option String)
  /-- The alternative bodies of each symbol, in the order in which they were given. -/
  bodies : SymbolMap (List Word)
  initiator : Word
  seed : UInt64

namespace Grammar

def defaultSeed : UInt64 := 0x4c53797374656d21

def empty : Grammar := ⟨.empty, .empty, .empty, [], defaultSeed⟩

instance : EmptyCollection Grammar := ⟨empty⟩

instance : Inhabited Grammar := ⟨empty⟩

/-- The symbol of a character, which is made one if it has not been mentioned before. -/
def intern (grammar : Grammar) (char : Char) : Symbol × Grammar :=
  let (symbol, alphabet) := grammar.alphabet.intern char
  (symbol, { grammar with alphabet })

def symbol? (grammar : Grammar) (char : Char) : Option Symbol :=
  grammar.alphabet.resolve? char

def internText (grammar : Grammar) (text : String) : Word × Grammar :=
  let (word, alphabet) := grammar.alphabet.internText text
  (word, { grammar with alphabet })

def action? (grammar : Grammar) (symbol : Symbol) : Option String :=
  grammar.actions.get symbol

/-- The bodies a symbol may be replaced by; none for a terminal. -/
def alternatives (grammar : Grammar) (symbol : Symbol) : List Word :=
  grammar.bodies.get symbol

/-- Binds an action name to a character, replacing an earlier name. -/
def setAction (grammar : Grammar) (char : Char) (name : String) : Grammar :=
  let (symbol, grammar) := grammar.intern char
  { grammar with actions := grammar.actions.modify symbol fun _ => some name }

def setInitiator (grammar : Grammar) (text : String) : Grammar :=
  let (word, grammar) := grammar.internText text
  { grammar with initiator := word }

/-- Gives a character one more body, one symbol for each character of a text. -/
def addRule (grammar : Grammar) (char : Char) (text : String) : Grammar :=
  let (symbol, grammar) := grammar.intern char
  let (body, grammar) := grammar.internText text
  { grammar with bodies := grammar.bodies.modify symbol (· ++ [body]) }

def setSeed (grammar : Grammar) (seed : UInt64) : Grammar :=
  { grammar with seed }

def randomStream (grammar : Grammar) : ChaCha.Stream :=
  .ofSeed grammar.seed

/-- Picks a body of a symbol, or none for a terminal; words are drawn only if there is a choice. -/
def chooseBody {ρ : Type} [RandomSource ρ] (grammar : Grammar) (symbol : Symbol)
    (source : ρ) : Option Word × ρ :=
  match grammar.alternatives symbol with
  | [] => (none, source)
  | [body] => (some body, source)
  | first :: second :: others =>
    let (body, source) :=
      RandomSource.choose (first :: second :: others) (Nat.zero_lt_succ _) source
    (some body, source)

section Choice

variable {ρ : Type} [RandomSource ρ] {grammar : Grammar} {symbol : Symbol}

theorem chooseBody_of_terminal (terminal : grammar.alternatives symbol = []) (source : ρ) :
    grammar.chooseBody symbol source = (none, source) := by
  simp [chooseBody, terminal]

theorem chooseBody_of_single {body : Word} (single : grammar.alternatives symbol = [body])
    (source : ρ) : grammar.chooseBody symbol source = (some body, source) := by
  simp [chooseBody, single]

theorem chooseBody_of_several (several : 1 < (grammar.alternatives symbol).length) (source : ρ) :
    grammar.chooseBody symbol source =
      (some (RandomSource.choose (grammar.alternatives symbol)
          (Nat.lt_trans Nat.zero_lt_one several) source).1,
        (RandomSource.choose (grammar.alternatives symbol)
          (Nat.lt_trans Nat.zero_lt_one several) source).2) := by
  unfold chooseBody
  split
  · rename_i terminal
    simp [terminal] at several
  · rename_i body single
    simp [single] at several
  · rename_i first second others bodies
    simp only [bodies]

/-- Terminals, and only they, are not replaced; a replacement is one of the bodies. -/
theorem chooseBody_cases (grammar : Grammar) (symbol : Symbol) (source : ρ) :
    (grammar.alternatives symbol = [] ∧ grammar.chooseBody symbol source = (none, source)) ∨
      ∃ body ∈ grammar.alternatives symbol, ∃ rest,
        grammar.chooseBody symbol source = (some body, rest) := by
  match bodies : grammar.alternatives symbol with
  | [] => exact .inl ⟨rfl, chooseBody_of_terminal bodies source⟩
  | [body] => exact .inr ⟨body, by simp, source, chooseBody_of_single bodies source⟩
  | first :: second :: others =>
      have several : 1 < (grammar.alternatives symbol).length := by simp [bodies]
      rw [← bodies]
      exact .inr ⟨_, RandomSource.choose_fst_mem _ _ source, _,
        chooseBody_of_several several source⟩

end Choice

end Grammar

end Lindenmayer
