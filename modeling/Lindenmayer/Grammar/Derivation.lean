import Lindenmayer.Grammar.Basic

/-!
# Derivations

What a grammar derives from a word, with the derived word spelled out. There are
two views of it.

* `Grammar.derive` computes one word, taking every choice from a random source.
  Choices are drawn from left to right and depth first: the body of a symbol is
  derived to the end before the next symbol of the word is looked at.
* `Grammar.Step` relates a word to all words that one round can turn it into.
  Every occurrence of a symbol is replaced on its own, so two occurrences of one
  symbol may be replaced by different bodies, and `Grammar.Derives` counts
  rounds.

A terminal stands for itself however many rounds are left.
-/

namespace Lindenmayer.Grammar

variable {ρ : Type} [RandomSource ρ]

theorem length_pos_of_several (first second : Word) (others : List Word) :
    0 < (first :: second :: others).length :=
  Nat.zero_lt_succ _

/--
What is derived from one symbol, if bodies are derived as given. A terminal is
kept; an only body is taken as it is, and among several bodies one is drawn first.
-/
def deriveSymbol (grammar : Grammar) (deriveBody : Word → ρ → Word × ρ) (symbol : Symbol)
    (source : ρ) : Word × ρ :=
  match grammar.alternatives symbol with
  | [] => ([symbol], source)
  | [body] => deriveBody body source
  | first :: second :: others =>
    let drawn := RandomSource.choose (first :: second :: others)
      (length_pos_of_several first second others) source
    deriveBody drawn.1 drawn.2

def deriveSymbols (grammar : Grammar) (deriveBody : Word → ρ → Word × ρ) :
    Word → ρ → Word × ρ
  | [], source => ([], source)
  | symbol :: rest, source =>
    let (front, source) := grammar.deriveSymbol deriveBody symbol source
    let (back, source) := grammar.deriveSymbols deriveBody rest source
    (front ++ back, source)

/-- The word derived in a number of rounds, and what is left of the random words. -/
def derive (grammar : Grammar) : (rounds : Nat) → Word → ρ → Word × ρ
  | 0, word, source => (word, source)
  | rounds + 1, word, source => grammar.deriveSymbols (grammar.derive rounds) word source

/-- What a single occurrence of a symbol may be replaced by in one round. -/
inductive Yields (grammar : Grammar) : Symbol → Word → Prop
  | keep {symbol : Symbol} (terminal : grammar.alternatives symbol = []) :
      Yields grammar symbol [symbol]
  | replace {symbol : Symbol} {body : Word} (mem : body ∈ grammar.alternatives symbol) :
      Yields grammar symbol body

/-- One round: every occurrence is replaced, each on its own. -/
inductive Step (grammar : Grammar) : Word → Word → Prop
  | nil : Step grammar [] []
  | cons {symbol : Symbol} {front rest back : Word}
      (yields : grammar.Yields symbol front) (step : Step grammar rest back) :
      Step grammar (symbol :: rest) (front ++ back)

/-- What a word can be turned into in exactly so many rounds. -/
inductive Derives (grammar : Grammar) : (rounds : Nat) → Word → Word → Prop
  | refl (word : Word) : Derives grammar 0 word word
  | head {rounds : Nat} {word next last : Word}
      (step : grammar.Step word next) (derives : Derives grammar rounds next last) :
      Derives grammar (rounds + 1) word last

/-- Whether the bodies of every symbol are all the same, so that choices decide nothing. -/
def IsDeterministic (grammar : Grammar) : Prop :=
  ∀ symbol ∈ grammar.alphabet.symbols, ∀ first ∈ grammar.alternatives symbol,
    ∀ second ∈ grammar.alternatives symbol, first = second

instance (grammar : Grammar) : Decidable grammar.IsDeterministic :=
  inferInstanceAs (Decidable (∀ symbol ∈ grammar.alphabet.symbols,
    ∀ first ∈ grammar.alternatives symbol, ∀ second ∈ grammar.alternatives symbol, first = second))

def HasSingleBodies (grammar : Grammar) : Prop :=
  ∀ symbol ∈ grammar.alphabet.symbols, (grammar.alternatives symbol).length ≤ 1

instance (grammar : Grammar) : Decidable grammar.HasSingleBodies :=
  inferInstanceAs (Decidable (∀ symbol ∈ grammar.alphabet.symbols,
    (grammar.alternatives symbol).length ≤ 1))

/-- What a symbol is replaced by if its first body is always taken. -/
def image (grammar : Grammar) (symbol : Symbol) : Word :=
  (grammar.alternatives symbol).head?.getD [symbol]

def imageOf (grammar : Grammar) (word : Word) : Word :=
  word.flatMap grammar.image

def iteratedImage (grammar : Grammar) : (rounds : Nat) → Word → Word
  | 0, word => word
  | rounds + 1, word => grammar.iteratedImage rounds (grammar.imageOf word)

@[simp]
theorem derive_zero (grammar : Grammar) (word : Word) (source : ρ) :
    grammar.derive 0 word source = (word, source) := rfl

@[simp]
theorem derive_nil (grammar : Grammar) (rounds : Nat) (source : ρ) :
    grammar.derive rounds [] source = ([], source) := by
  cases rounds <;> rfl

theorem deriveSymbol_of_chosen {grammar : Grammar} {symbol : Symbol} {source chosenSource : ρ}
    {body : Word} (chosen : grammar.chooseBody symbol source = (some body, chosenSource))
    (deriveBody : Word → ρ → Word × ρ) :
    grammar.deriveSymbol deriveBody symbol source = deriveBody body chosenSource := by
  unfold deriveSymbol
  split
  · rename_i terminal
    simp [chooseBody_of_terminal terminal] at chosen
  · rename_i only single
    simp only [chooseBody_of_single single, Prod.mk.injEq, Option.some.injEq] at chosen
    rw [chosen.1, chosen.2]
  · rename_i first second others several
    rw [chooseBody_of_several (by simp [several])] at chosen
    simp only [several, Prod.mk.injEq, Option.some.injEq] at chosen
    simp only [chosen.1, chosen.2]

theorem derive_succ_cons_terminal (grammar : Grammar) (rounds : Nat) (symbol : Symbol)
    (rest : Word) (source : ρ) (terminal : grammar.alternatives symbol = []) :
    grammar.derive (rounds + 1) (symbol :: rest) source =
      (symbol :: (grammar.derive (rounds + 1) rest source).1,
        (grammar.derive (rounds + 1) rest source).2) := by
  simp [derive, deriveSymbols, deriveSymbol, terminal]

theorem derive_succ_cons_chosen (grammar : Grammar) (rounds : Nat) (symbol : Symbol)
    (rest : Word) (source chosenSource : ρ) (body : Word)
    (chosen : grammar.chooseBody symbol source = (some body, chosenSource)) :
    grammar.derive (rounds + 1) (symbol :: rest) source =
      let (front, frontSource) := grammar.derive rounds body chosenSource
      (front ++ (grammar.derive (rounds + 1) rest frontSource).1,
        (grammar.derive (rounds + 1) rest frontSource).2) := by
  simp only [derive, deriveSymbols, deriveSymbol_of_chosen chosen]

theorem imageOf_append (grammar : Grammar) (left right : Word) :
    grammar.imageOf (left ++ right) = grammar.imageOf left ++ grammar.imageOf right :=
  List.flatMap_append

end Lindenmayer.Grammar
