import Lindenmayer.Proofs.Grammar.Streaming
import Lindenmayer.Proofs.Random.Choice

/-!
# The language of a grammar

What renderings execute in a number of rounds is just what the grammar derives in so
many parallel steps. Whatever is drawn, the word executed is derived; and each derived
word is executed for some words of the source.

The choices of a derivation are made for all occurrences at once and round by round,
while a rendering asks for them depth first. They are brought into that order by
splitting a derivation at the first symbol: what it derives from the symbol and what it
derives from the rest of the word are derivations of their own.
-/

namespace Lindenmayer

theorem RandomSource.delivers_append {ρ : Type} [RandomSource ρ] {source rest : ρ}
    {first second : List UInt32} (delivers : Delivers source (first ++ second) rest) :
    ∃ middle, Delivers source first middle ∧ Delivers middle second rest := by
  induction first generalizing source with
  | nil => exact ⟨source, .nil source, delivers⟩
  | cons word words inductionHypothesis =>
      cases delivers with
      | cons later =>
          rcases inductionHypothesis later with ⟨middle, wordsDelivered, secondDelivered⟩
          exact ⟨middle, .cons wordsDelivered, secondDelivered⟩

namespace Grammar

section Relation

variable {grammar : Grammar}

theorem Step.append {left leftNext right rightNext : Word} (leftStep : grammar.Step left leftNext)
    (rightStep : grammar.Step right rightNext) :
    grammar.Step (left ++ right) (leftNext ++ rightNext) := by
  induction leftStep with
  | nil => exact rightStep
  | cons yields _ inductionHypothesis =>
      rw [List.append_assoc]
      exact .cons yields inductionHypothesis

theorem Step.exists_append {left right next : Word} (step : grammar.Step (left ++ right) next) :
    ∃ front back, next = front ++ back ∧ grammar.Step left front ∧ grammar.Step right back := by
  induction left generalizing next with
  | nil => exact ⟨[], next, rfl, .nil, step⟩
  | cons symbol rest inductionHypothesis =>
      cases step with
      | cons yields restStep =>
          rcases inductionHypothesis restStep with ⟨front, back, rfl, frontStep, backStep⟩
          exact ⟨_, back, (List.append_assoc _ _ _).symm, .cons yields frontStep, backStep⟩

/-- Two words can be derived from side by side. -/
theorem Derives.append {rounds : Nat} {left leftLast right rightLast : Word}
    (leftDerives : grammar.Derives rounds left leftLast)
    (rightDerives : grammar.Derives rounds right rightLast) :
    grammar.Derives rounds (left ++ right) (leftLast ++ rightLast) := by
  induction leftDerives generalizing right with
  | refl word =>
      cases rightDerives
      exact .refl _
  | head leftStep _ inductionHypothesis =>
      cases rightDerives with
      | head rightStep rightRest => exact .head (leftStep.append rightStep) (inductionHypothesis rightRest)

/-- What is derived from two words is derived from each of them on its own. -/
theorem Derives.exists_append {rounds : Nat} {left right last : Word}
    (derives : grammar.Derives rounds (left ++ right) last) :
    ∃ front back, last = front ++ back ∧ grammar.Derives rounds left front ∧
      grammar.Derives rounds right back := by
  induction rounds generalizing left right with
  | zero =>
      cases derives
      exact ⟨left, right, rfl, .refl left, .refl right⟩
  | succ rounds inductionHypothesis =>
      cases derives with
      | head step rest =>
          rcases step.exists_append with ⟨leftNext, rightNext, rfl, leftStep, rightStep⟩
          rcases inductionHypothesis rest with ⟨front, back, rfl, frontDerives, backDerives⟩
          exact ⟨front, back, rfl, .head leftStep frontDerives, .head rightStep backDerives⟩

theorem Derives.eq_nil {rounds : Nat} {last : Word} (derives : grammar.Derives rounds [] last) :
    last = [] := by
  induction rounds with
  | zero =>
      cases derives
      rfl
  | succ rounds inductionHypothesis =>
      cases derives with
      | head step rest =>
          cases step
          exact inductionHypothesis rest

/-- A symbol that yields a word derives in one more round what the word derives. -/
theorem Yields.derives {rounds : Nat} {symbol : Symbol} {next last : Word}
    (yields : grammar.Yields symbol next) (derives : grammar.Derives rounds next last) :
    grammar.Derives (rounds + 1) [symbol] last := by
  have step : grammar.Step [symbol] (next ++ []) := .cons yields .nil
  rw [List.append_nil] at step
  exact .head step derives

theorem derives_terminal {symbol : Symbol} (terminal : grammar.alternatives symbol = [])
    (rounds : Nat) : grammar.Derives rounds [symbol] [symbol] := by
  induction rounds with
  | zero => exact .refl [symbol]
  | succ rounds inductionHypothesis => exact (Yields.keep terminal).derives inductionHypothesis

/-- A symbol is derived from by way of a word that it yields. -/
theorem Derives.exists_yields {rounds : Nat} {symbol : Symbol} {rest last : Word}
    (derives : grammar.Derives (rounds + 1) (symbol :: rest) last) :
    ∃ next front back, last = front ++ back ∧ grammar.Yields symbol next ∧
      grammar.Derives rounds next front ∧ grammar.Derives (rounds + 1) rest back := by
  cases derives with
  | head step further =>
      cases step with
      | cons yields restStep =>
          rcases further.exists_append with ⟨front, back, rfl, frontDerives, backDerives⟩
          exact ⟨_, front, back, rfl, yields, frontDerives, .head restStep backDerives⟩

theorem Derives.eq_of_terminal {symbol : Symbol} (terminal : grammar.alternatives symbol = [])
    {rounds : Nat} {last : Word} (derives : grammar.Derives rounds [symbol] last) :
    last = [symbol] := by
  induction rounds generalizing last with
  | zero =>
      cases derives
      rfl
  | succ rounds inductionHypothesis =>
      rcases derives.exists_yields with ⟨next, front, back, rfl, yields, frontDerives, backDerives⟩
      rw [backDerives.eq_nil, List.append_nil]
      cases yields with
      | keep _ => exact inductionHypothesis frontDerives
      | replace bodyMem => simp [terminal] at bodyMem

end Relation

section Drawing

variable {grammar : Grammar}

/-- Whatever is drawn, a derived word is derived in parallel steps. -/
theorem derives_derive {ρ : Type} [RandomSource ρ] (grammar : Grammar) (rounds : Nat) (word : Word)
    (source : ρ) : grammar.Derives rounds word (grammar.derive rounds word source).1 := by
  induction rounds generalizing word source with
  | zero => exact .refl word
  | succ rounds roundsHypothesis =>
      induction word generalizing source with
      | nil =>
          have fewerRounds := roundsHypothesis [] source
          rw [derive_nil] at fewerRounds ⊢
          exact .head .nil fewerRounds
      | cons symbol rest restHypothesis =>
          rcases grammar.chooseBody_cases symbol source with
            ⟨terminal, _⟩ | ⟨body, bodyMem, bodySource, chosen⟩
          · rw [derive_succ_cons_terminal _ _ _ _ _ terminal]
            exact (derives_terminal terminal (rounds + 1)).append (restHypothesis source)
          · rw [derive_succ_cons_chosen _ _ _ _ _ _ _ chosen]
            have fromBody := roundsHypothesis body bodySource
            exact ((Yields.replace bodyMem).derives fromBody).append (restHypothesis _)

/-- Each body of a symbol is chosen by all sources that deliver certain words. -/
theorem exists_words_chooseBody {symbol : Symbol}
    (few : (grammar.alternatives symbol).length < 2 ^ 32) {body : Word}
    (bodyMem : body ∈ grammar.alternatives symbol) :
    ∃ words : List UInt32, ∀ {ρ : Type} [RandomSource ρ] (source rest : ρ),
      RandomSource.Delivers source words rest →
        grammar.chooseBody symbol source = (some body, rest) := by
  by_cases several : 1 < (grammar.alternatives symbol).length
  · rcases RandomSource.exists_word_choose_eq (Nat.le_of_lt few)
      (Nat.lt_trans Nat.zero_lt_one several) bodyMem with ⟨word, picks⟩
    refine ⟨[word], ?_⟩
    intro ρ _ source rest delivers
    cases delivers with
    | cons later =>
        cases later
        rw [chooseBody_of_several several source, picks source rfl]
  · have single : grammar.alternatives symbol = [body] := by
      match bodies : grammar.alternatives symbol with
      | [] => simp [bodies] at bodyMem
      | [only] => simpa [bodies, eq_comm] using bodyMem
      | first :: second :: others => simp [bodies] at several
    refine ⟨[], ?_⟩
    intro ρ _ source rest delivers
    cases delivers
    exact chooseBody_of_single single source

/--
Each word that can be derived is derived by all sources that deliver certain words:
those for the choice at the first symbol, then those for what it yields, and those for
the rest of the word.
-/
theorem exists_words_derive (closed : grammar.IsClosed)
    (few : ∀ symbol ∈ grammar.alphabet.symbols, (grammar.alternatives symbol).length < 2 ^ 32)
    {rounds : Nat} {word last : Word} (listed : grammar.alphabet.Lists word)
    (derives : grammar.Derives rounds word last) :
    ∃ words : List UInt32, ∀ {ρ : Type} [RandomSource ρ] (source rest : ρ),
      RandomSource.Delivers source words rest →
        grammar.derive rounds word source = (last, rest) := by
  induction rounds generalizing word last with
  | zero =>
      cases derives
      refine ⟨[], ?_⟩
      intro ρ _ source rest delivers
      cases delivers
      rfl
  | succ rounds roundsHypothesis =>
      induction word generalizing last with
      | nil =>
          rw [derives.eq_nil]
          refine ⟨[], ?_⟩
          intro ρ _ source rest delivers
          cases delivers
          exact derive_nil grammar (rounds + 1) source
      | cons symbol tail tailHypothesis =>
          rw [Alphabet.lists_cons] at listed
          rcases derives.exists_yields with ⟨next, front, back, rfl, yields, fromNext, fromTail⟩
          rcases tailHypothesis listed.2 fromTail with ⟨tailWords, tailDerived⟩
          cases yields with
          | keep terminal =>
              refine ⟨tailWords, ?_⟩
              intro ρ _ source rest delivers
              rw [derive_succ_cons_terminal _ _ _ _ _ terminal, tailDerived source rest delivers,
                fromNext.eq_of_terminal terminal]
              rfl
          | replace bodyMem =>
              have bodyListed := closed.bodies symbol next bodyMem
              rcases exists_words_chooseBody (few symbol listed.1) bodyMem with
                ⟨choiceWords, chooses⟩
              rcases roundsHypothesis bodyListed fromNext with ⟨bodyWords, bodyDerived⟩
              refine ⟨choiceWords ++ (bodyWords ++ tailWords), ?_⟩
              intro ρ _ source rest delivers
              rcases RandomSource.delivers_append delivers with
                ⟨bodySource, choiceDelivered, restDelivered⟩
              rcases RandomSource.delivers_append restDelivered with
                ⟨tailSource, bodyDelivered, tailDelivered⟩
              rw [derive_succ_cons_chosen _ _ _ _ _ _ _
                (chooses source bodySource choiceDelivered)]
              simp only [bodyDerived bodySource tailSource bodyDelivered,
                tailDerived tailSource rest tailDelivered]

/--
Rendering produces exactly the words derived in as many steps as there are rounds. For
every source, the word executed is derived from the given one; and for every word that
is derived there are words of thirty-two bits such that each source that delivers them
makes the rendering execute it, provided no symbol has 2 ^ 32 bodies or more.
-/
theorem renderFrom_executes_derivable (edits : List GrammarEdit) (word : Word)
    (listed : (ofEdits edits).alphabet.Lists word) (rounds : Nat) :
    let grammar := ofEdits edits
    (∀ {τ ρ : Type} [Turtle τ] [RandomSource ρ] (turtle : τ) (source : ρ),
      grammar.IsKnownTo turtle →
        ∃ rendering, grammar.renderFrom turtle word rounds source = .ok rendering ∧
          grammar.Executes turtle (grammar.executed rounds word source) rendering ∧
          grammar.Derives rounds word (grammar.executed rounds word source)) ∧
    ((∀ symbol ∈ grammar.alphabet.symbols, (grammar.alternatives symbol).length < 2 ^ 32) →
      ∀ last, grammar.Derives rounds word last →
        ∃ words : List UInt32, ∀ {τ ρ : Type} [Turtle τ] [RandomSource ρ] (turtle : τ)
          (source rest : ρ), grammar.IsKnownTo turtle → RandomSource.Delivers source words rest →
            ∃ rendering, grammar.renderFrom turtle word rounds source = .ok rendering ∧
              grammar.executed rounds word source = last ∧
              grammar.Executes turtle last rendering ∧ rendering.source = rest) := by
  intro grammar
  have closed : grammar.IsClosed := isClosed_ofEdits edits
  constructor
  · intro τ ρ _ _ turtle source known
    rcases grammar.exists_renderFrom closed turtle known word listed rounds source with
      ⟨rendering, rendered, _, executes⟩
    rw [executed_eq_derive]
    exact ⟨rendering, rendered, executes, grammar.derives_derive rounds word source⟩
  · intro few last derives
    rcases exists_words_derive closed few listed derives with ⟨words, derived⟩
    refine ⟨words, ?_⟩
    intro τ ρ _ _ turtle source rest known delivers
    rcases grammar.exists_renderFrom closed turtle known word listed rounds source with
      ⟨rendering, rendered, left, executes⟩
    rw [derived source rest delivers] at left executes
    refine ⟨rendering, rendered, ?_, executes, left⟩
    rw [executed_eq_derive, derived source rest delivers]

theorem renderFrom_executes_derivable_branchingPlant :
    let grammar := ofEdits branchingPlant
    let stem : Symbol := ⟨3, 'F'⟩
    let last : Word := [stem, ⟨0, '['⟩, ⟨2, '+'⟩, stem, ⟨1, ']'⟩, stem, stem, stem]
    grammar.alphabet.Lists [stem] ∧ grammar.IsKnownTo SilentTurtle.standard ∧
      (∀ symbol ∈ grammar.alphabet.symbols, (grammar.alternatives symbol).length < 2 ^ 32) ∧
      grammar.Derives 2 [stem] last ∧
      ∃ words rendering,
        grammar.renderFrom SilentTurtle.standard [stem] 2 (Script.mk words) = .ok rendering ∧
        grammar.executed 2 [stem] (Script.mk words) = last := by
  intro grammar stem last
  -- The two occurrences of the second round are replaced by different bodies.
  have derives : grammar.Derives 2 [stem] last := by
    have grows : grammar.Yields stem [stem, stem] := .replace (by decide +kernel)
    have branches : grammar.Yields stem (last.take 6) := .replace (by decide +kernel)
    exact .head (.cons grows .nil) (.head (.cons branches (.cons grows .nil)) (.refl _))
  have few : ∀ symbol ∈ grammar.alphabet.symbols,
      (grammar.alternatives symbol).length < 2 ^ 32 := by decide +kernel
  have applied := renderFrom_executes_derivable branchingPlant [stem] (by decide) 2
  rcases applied.2 few last derives with ⟨words, executes⟩
  have delivers : RandomSource.Delivers (Script.mk words) words (Script.mk []) := by
    simpa using Script.delivers words []
  rcases executes SilentTurtle.standard _ _ (by decide) delivers with
    ⟨rendering, rendered, executed, _⟩
  exact ⟨by decide, by decide, few, derives, words, rendering, rendered, executed⟩

end Drawing

end Grammar

end Lindenmayer
