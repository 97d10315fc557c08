import Lindenmayer.Proofs.Grammar.Streaming
import Lindenmayer.Proofs.Random.Recording

/-!
# Rounds that change nothing

Once only terminals are left, further rounds are idle. For one word this is plain, but a
traversal takes all its choices from one stream, and depth first: a body that is gone
through with more rounds might draw more words, and all that follows would be chosen
differently. It does not, as each part of the word on its own draws the same words however
many rounds are left, provided that the symbols it ends in are terminals. The number of
rounds and the source have to vary in the induction therefore.
-/

namespace Lindenmayer.Grammar

section Recording

variable {ρ α : Type} [RandomSource ρ]

theorem follows_chooseBody (grammar : Grammar) (symbol : Symbol) (before : RecordedSource ρ) :
    before.Follows (grammar.chooseBody symbol before.source)
      (grammar.chooseBody symbol before) := by
  unfold chooseBody
  split
  · exact .idle before none
  · exact .idle before (some _)
  · exact (RandomSource.follows_choose _ _ before).map some

/-- Deriving with a recorded source is deriving with the source behind it. -/
theorem follows_derive (grammar : Grammar) (rounds : Nat) (word : Word)
    (before : RecordedSource ρ) :
    before.Follows (grammar.derive rounds word before.source)
      (grammar.derive rounds word before) := by
  induction rounds generalizing word before with
  | zero => exact .idle before word
  | succ rounds roundsHypothesis =>
      induction word generalizing before with
      | nil =>
          simp only [derive_nil]
          exact .idle before []
      | cons symbol rest restHypothesis =>
          have chosenAlike := grammar.follows_chooseBody symbol before
          rcases grammar.chooseBody_cases symbol before.source with
            ⟨terminal, _⟩ | ⟨body, _, bodySource, chosen⟩
          · simp only [derive_succ_cons_terminal _ _ _ _ _ terminal]
            exact (restHypothesis before).map (symbol :: ·)
          · have recordedChosen : grammar.chooseBody symbol before =
                (some body, (grammar.chooseBody symbol before).2) :=
              Prod.ext (chosenAlike.result.trans (congrArg Prod.fst chosen)) rfl
            have behind : (grammar.chooseBody symbol before).2.source = bodySource :=
              chosenAlike.source.trans (congrArg Prod.snd chosen)
            have front := roundsHypothesis body (grammar.chooseBody symbol before).2
            rw [behind] at front
            have back := restHypothesis
              (grammar.derive rounds body (grammar.chooseBody symbol before).2).2
            rw [front.source] at back
            rw [derive_succ_cons_chosen _ _ _ _ _ _ _ chosen,
              derive_succ_cons_chosen _ _ _ _ _ _ _ recordedChosen]
            simp only [front.result]
            exact ((chosenAlike.trans front).trans back).map (_ ++ ·)

/-- The random words that are drawn when a word is gone through, in order. -/
def drawn (grammar : Grammar) (rounds : Nat) (word : Word) (source : ρ) : List UInt32 :=
  (grammar.traverse (fun (_ : Unit) _ => ()) rounds word
    ((), RecordedSource.ofSource source)).2.words

theorem drawn_eq_derive (grammar : Grammar) (rounds : Nat) (word : Word) (source : ρ) :
    grammar.drawn rounds word source =
      (grammar.derive rounds word (RecordedSource.ofSource source)).2.words := by
  rw [drawn, traverse_eq_foldl_derive]

/-- The words drawn are what the source delivers until it is left as a traversal leaves it. -/
theorem delivers_drawn (grammar : Grammar) (visit : α → Symbol → α) (rounds : Nat) (word : Word)
    (seen : α) (source : ρ) :
    RandomSource.Delivers source (grammar.drawn rounds word source)
      (grammar.traverse visit rounds word (seen, source)).2 := by
  rcases (grammar.follows_derive rounds word (.ofSource source)).words with
    ⟨words, noted, delivered⟩
  rw [drawn_eq_derive, noted, traverse_eq_foldl_derive]
  exact delivered

end Recording

/-- Whether no symbol of a word has a body. -/
def IsTerminal (grammar : Grammar) (word : Word) : Prop :=
  ∀ symbol ∈ word, grammar.alternatives symbol = []

instance (grammar : Grammar) (word : Word) : Decidable (grammar.IsTerminal word) :=
  inferInstanceAs (Decidable (∀ symbol ∈ word, grammar.alternatives symbol = []))

section Derivation

variable {ρ : Type} [RandomSource ρ] {grammar : Grammar}

theorem isTerminal_cons {symbol : Symbol} {rest : Word} :
    grammar.IsTerminal (symbol :: rest) ↔
      grammar.alternatives symbol = [] ∧ grammar.IsTerminal rest :=
  List.forall_mem_cons

theorem isTerminal_append {front back : Word} :
    grammar.IsTerminal (front ++ back) ↔ grammar.IsTerminal front ∧ grammar.IsTerminal back :=
  List.forall_mem_append

/-- A word of terminals stands for itself. -/
theorem IsTerminal.derive_eq {word : Word} (terminal : grammar.IsTerminal word) (rounds : Nat)
    (source : ρ) : grammar.derive rounds word source = (word, source) := by
  cases rounds with
  | zero => rfl
  | succ rounds =>
      induction word with
      | nil => rfl
      | cons symbol rest inductionHypothesis =>
          rw [isTerminal_cons] at terminal
          rw [derive_succ_cons_terminal _ _ _ _ _ terminal.1, inductionHypothesis terminal.2]

/-- If only terminals are derived, more rounds derive them too, and from the same words. -/
theorem derive_eq_of_isTerminal {rounds more : Nat} (enough : rounds ≤ more) {word : Word}
    {source : ρ} (terminal : grammar.IsTerminal (grammar.derive rounds word source).1) :
    grammar.derive more word source = grammar.derive rounds word source := by
  induction rounds generalizing more word source with
  | zero => exact terminal.derive_eq more source
  | succ rounds roundsHypothesis =>
      rcases Nat.exists_eq_add_of_lt enough with ⟨further, rfl⟩
      have fewer : rounds ≤ rounds + further := Nat.le_add_right rounds further
      induction word generalizing source with
      | nil => simp only [derive_nil]
      | cons symbol rest restHypothesis =>
          rcases grammar.chooseBody_cases symbol source with
            ⟨symbolTerminal, _⟩ | ⟨body, _, bodySource, chosen⟩
          · rw [derive_succ_cons_terminal _ _ _ _ _ symbolTerminal, isTerminal_cons] at terminal
            simp only [derive_succ_cons_terminal _ _ _ _ _ symbolTerminal,
              restHypothesis terminal.2]
          · rw [derive_succ_cons_chosen _ _ _ _ _ _ _ chosen, isTerminal_append] at terminal
            simp only [derive_succ_cons_chosen _ _ _ _ _ _ _ chosen,
              roundsHypothesis fewer terminal.1, restHypothesis terminal.2]

end Derivation

/--
Whether nothing tells two numbers of rounds apart when a word is gone through with a source:
neither what is executed, nor what is drawn from the source and left of it, nor the outcome of
a rendering with any turtle.
-/
structure IsTheSameAfter {ρ : Type} [RandomSource ρ] (grammar : Grammar) (rounds more : Nat)
    (word : Word) (source : ρ) : Prop where
  executed : grammar.executed more word source = grammar.executed rounds word source
  drawn : grammar.drawn more word source = grammar.drawn rounds word source
  /-- What a visitor makes of the symbols, together with the source as it is left. -/
  traverse : ∀ {α : Type} (visit : α → Symbol → α) (seen : α),
    grammar.traverse visit more word (seen, source) =
      grammar.traverse visit rounds word (seen, source)
  /-- The turtle, the box, the number of symbols executed and the source, or the refusal. -/
  renderFrom : ∀ {τ : Type} [Turtle τ] (turtle : τ),
    grammar.renderFrom turtle word more source = grammar.renderFrom turtle word rounds source

/--
Further rounds change nothing once only terminals are left. Stochastic or not, if all symbols that
are executed after some rounds are terminals, then with more rounds and the same source the same
symbols are executed in the same order, the same random words are drawn, the source is left alike,
and every turtle draws the same within the same box.
-/
theorem isTheSameAfter_of_terminal_executed {ρ : Type} [RandomSource ρ] (grammar : Grammar)
    (word : Word) (source : ρ) (rounds : Nat)
    (terminal : grammar.IsTerminal (grammar.executed rounds word source)) (more : Nat)
    (enough : rounds ≤ more) : grammar.IsTheSameAfter rounds more word source := by
  rw [executed_eq_derive] at terminal
  have recordedTerminal :
      grammar.IsTerminal (grammar.derive rounds word (RecordedSource.ofSource source)).1 := by
    rw [(grammar.follows_derive rounds word (.ofSource source)).result]
    exact terminal
  have same := derive_eq_of_isTerminal enough terminal
  have recordedSame := derive_eq_of_isTerminal enough recordedTerminal
  refine ⟨?_, ?_, ?_, ?_⟩
  · rw [executed_eq_derive, executed_eq_derive, same]
  · rw [drawn_eq_derive, drawn_eq_derive, recordedSame]
  · intro α visit seen
    rw [traverse_eq_foldl_derive, traverse_eq_foldl_derive, same]
  · intro τ _ turtle
    simp only [renderFrom, walk_start, same]

/-- A flower that may put forth a bud, which turns into one of two leaves. -/
def shootingFlower : List GrammarEdit :=
  [.addRule 'F' "fB", .addRule 'F' "f", .addRule 'B' "+", .addRule 'B' "-"]

/-- Four words are drawn: for the first symbol, for its bud, one in vain, and for the last symbol. -/
theorem isTheSameAfter_of_terminal_executed_shootingFlower :
    let grammar := ofEdits shootingFlower
    let word : Word := [⟨0, 'F'⟩, ⟨0, 'F'⟩]
    let source := Script.mk [7, 3000000000, 4000000000, 3000000001, 11]
    grammar.IsTerminal (grammar.executed 2 word source) ∧
      grammar.drawn 2 word source = [7, 3000000000, 4000000000, 3000000001] ∧
      2 ≤ 5 ∧ grammar.IsTheSameAfter 2 5 word source := by
  intro grammar word source
  have terminal : grammar.IsTerminal (grammar.executed 2 word source) := by decide +kernel
  exact ⟨terminal, by decide +kernel, by decide,
    isTheSameAfter_of_terminal_executed grammar word source 2 terminal 5 (by decide)⟩

end Lindenmayer.Grammar
