import Lindenmayer.Proofs.Grammar.Streaming

/-!
# Deterministic grammars

If the bodies of every symbol are all the same, rendering executes what the classical
definition gives: the image of the word under the replacement of symbols by bodies,
taken as often as there are rounds, whatever the random source delivers.

A rendering goes depth first and executes terminals at once, while images go breadth
first and carry terminals along. The two meet because images are taken piece by piece
and a terminal is its own image.
-/

namespace Lindenmayer.Grammar

section Image

theorem iteratedImage_append (grammar : Grammar) (rounds : Nat) (left right : Word) :
    grammar.iteratedImage rounds (left ++ right) =
      grammar.iteratedImage rounds left ++ grammar.iteratedImage rounds right := by
  induction rounds generalizing left right with
  | zero => rfl
  | succ rounds inductionHypothesis =>
      rw [iteratedImage, imageOf_append, inductionHypothesis, iteratedImage, iteratedImage]

/-- One round more takes the image of each symbol first. -/
theorem iteratedImage_succ_cons (grammar : Grammar) (rounds : Nat) (symbol : Symbol) (rest : Word) :
    grammar.iteratedImage (rounds + 1) (symbol :: rest) =
      grammar.iteratedImage rounds (grammar.image symbol) ++
        grammar.iteratedImage (rounds + 1) rest := by
  rw [iteratedImage, imageOf, List.flatMap_cons, iteratedImage_append]
  rfl

@[simp]
theorem iteratedImage_nil (grammar : Grammar) (rounds : Nat) :
    grammar.iteratedImage rounds [] = [] := by
  induction rounds with
  | zero => rfl
  | succ rounds inductionHypothesis => exact inductionHypothesis

/-- A terminal stays what it is. -/
theorem iteratedImage_terminal {grammar : Grammar} {symbol : Symbol}
    (terminal : grammar.alternatives symbol = []) (rounds : Nat) :
    grammar.iteratedImage rounds [symbol] = [symbol] := by
  induction rounds with
  | zero => rfl
  | succ rounds inductionHypothesis =>
      rw [iteratedImage_succ_cons, image, terminal]
      simpa using inductionHypothesis

/-- Rounds may be taken in two portions. -/
theorem iteratedImage_add (grammar : Grammar) (first second : Nat) (word : Word) :
    grammar.iteratedImage (first + second) word =
      grammar.iteratedImage second (grammar.iteratedImage first word) := by
  induction first generalizing word with
  | zero => rw [Nat.zero_add, iteratedImage]
  | succ first inductionHypothesis =>
      rw [Nat.succ_add, iteratedImage, inductionHypothesis, iteratedImage]

/-- In a deterministic grammar every body of a symbol is its image. -/
theorem IsDeterministic.image_eq {grammar : Grammar} (deterministic : grammar.IsDeterministic)
    {symbol : Symbol} (listed : symbol ∈ grammar.alphabet.symbols) {body : Word}
    (bodyMem : body ∈ grammar.alternatives symbol) : grammar.image symbol = body := by
  unfold image
  cases bodies : grammar.alternatives symbol with
  | nil => simp [bodies] at bodyMem
  | cons first others =>
      have firstMem : first ∈ grammar.alternatives symbol := by simp [bodies]
      exact deterministic symbol listed first firstMem body bodyMem

theorem IsClosed.lists_image {grammar : Grammar} (closed : grammar.IsClosed) {symbol : Symbol}
    (listed : symbol ∈ grammar.alphabet.symbols) : grammar.alphabet.Lists (grammar.image symbol) := by
  unfold image
  cases bodies : grammar.alternatives symbol with
  | nil => simpa using listed
  | cons first others => exact closed.bodies symbol first (by simp [bodies])

/-- Images never leave the alphabet. -/
theorem IsClosed.lists_iteratedImage {grammar : Grammar} (closed : grammar.IsClosed) (rounds : Nat)
    (word : Word) (listed : grammar.alphabet.Lists word) :
    grammar.alphabet.Lists (grammar.iteratedImage rounds word) := by
  induction rounds generalizing word with
  | zero => exact listed
  | succ rounds inductionHypothesis =>
      apply inductionHypothesis
      intro symbol symbolMem
      rcases List.mem_flatMap.mp symbolMem with ⟨origin, originMem, inImage⟩
      exact closed.lists_image (listed origin originMem) symbol inImage

end Image

section Derivation

variable {ρ : Type} [RandomSource ρ] {grammar : Grammar}

/-- What a deterministic grammar derives is the iterated image, whatever is drawn. -/
theorem IsDeterministic.derive_fst (deterministic : grammar.IsDeterministic)
    (closed : grammar.IsClosed) (rounds : Nat) (word : Word)
    (listed : grammar.alphabet.Lists word) (source : ρ) :
    (grammar.derive rounds word source).1 = grammar.iteratedImage rounds word := by
  induction rounds generalizing word source with
  | zero => rfl
  | succ rounds roundsHypothesis =>
      induction word generalizing source with
      | nil => simp
      | cons symbol rest restHypothesis =>
          rw [Alphabet.lists_cons] at listed
          rw [iteratedImage_succ_cons]
          rcases grammar.chooseBody_cases symbol source with
            ⟨terminal, _⟩ | ⟨body, bodyMem, bodySource, chosen⟩
          · rw [derive_succ_cons_terminal _ _ _ _ _ terminal, restHypothesis listed.2, image,
              terminal]
            simp [iteratedImage_terminal terminal]
          · rw [derive_succ_cons_chosen _ _ _ _ _ _ _ chosen,
              deterministic.image_eq listed.1 bodyMem]
            simp only [restHypothesis listed.2,
              roundsHypothesis body (closed.bodies symbol body bodyMem)]

/-- Where there is never a choice, nothing is drawn. -/
theorem HasSingleBodies.derive_snd (single : grammar.HasSingleBodies) (closed : grammar.IsClosed)
    (rounds : Nat) (word : Word) (listed : grammar.alphabet.Lists word) (source : ρ) :
    (grammar.derive rounds word source).2 = source := by
  induction rounds generalizing word source with
  | zero => rfl
  | succ rounds roundsHypothesis =>
      induction word generalizing source with
      | nil => simp
      | cons symbol rest restHypothesis =>
          rw [Alphabet.lists_cons] at listed
          have atMostOne := single symbol listed.1
          match bodies : grammar.alternatives symbol with
          | [] =>
              rw [derive_succ_cons_terminal _ _ _ _ _ bodies]
              exact restHypothesis listed.2 source
          | [body] =>
              rw [derive_succ_cons_chosen _ _ _ _ _ _ _ (chooseBody_of_single bodies source)]
              have bodyListed := closed.bodies symbol body (by simp [bodies])
              simp only [roundsHypothesis body bodyListed, restHypothesis listed.2]
          | first :: second :: others => simp [bodies] at atMostOne

end Derivation

section Rendering

variable {τ ρ : Type} [Turtle τ] [RandomSource ρ]

/--
Rendering a deterministic grammar is the classical L-system. The symbols executed are
those of the iterated image, whatever the source; nothing is drawn where no symbol has
a second body; and rounds may be taken in two portions, the first one in advance.
-/
theorem renderFrom_executes_iteratedImage (edits : List GrammarEdit)
    (deterministic : (ofEdits edits).IsDeterministic) (turtle : τ)
    (known : (ofEdits edits).IsKnownTo turtle) (word : Word)
    (listed : (ofEdits edits).alphabet.Lists word) :
    let grammar := ofEdits edits
    (∀ (rounds : Nat) (source : ρ),
      grammar.executed rounds word source = grammar.iteratedImage rounds word ∧
      ∃ rendering, grammar.renderFrom turtle word rounds source = .ok rendering ∧
        grammar.Executes turtle (grammar.iteratedImage rounds word) rendering ∧
        (grammar.HasSingleBodies → rendering.source = source)) ∧
    (∀ (first second : Nat) (source other : ρ), ∃ whole part : Rendering τ ρ,
      grammar.renderFrom turtle word (first + second) source = .ok whole ∧
      grammar.renderFrom turtle (grammar.iteratedImage first word) second other = .ok part ∧
      whole.turtle = part.turtle ∧ whole.box = part.box ∧ whole.executed = part.executed) := by
  intro grammar
  have closed : grammar.IsClosed := isClosed_ofEdits edits
  have renders : ∀ (rounds : Nat) (start : Word) (source : ρ), grammar.alphabet.Lists start →
      ∃ rendering, grammar.renderFrom turtle start rounds source = .ok rendering ∧
        rendering.source = (grammar.derive rounds start source).2 ∧
        grammar.Executes turtle (grammar.iteratedImage rounds start) rendering := by
    intro rounds start source startListed
    rw [← deterministic.derive_fst closed rounds start startListed source]
    exact grammar.exists_renderFrom closed turtle known start startListed rounds source
  constructor
  · intro rounds source
    rcases renders rounds word source listed with ⟨rendering, rendered, left, executes⟩
    refine ⟨?_, rendering, rendered, executes, ?_⟩
    · rw [executed_eq_derive]
      exact deterministic.derive_fst closed rounds word listed source
    · intro single
      rw [left]
      exact single.derive_snd closed rounds word listed source
  · intro first second source other
    rcases renders (first + second) word source listed with ⟨whole, wholeRendered, _, wholeExecutes⟩
    rcases renders second (grammar.iteratedImage first word) other
      (closed.lists_iteratedImage first word listed) with ⟨part, partRendered, _, partExecutes⟩
    rw [iteratedImage_add] at wholeExecutes
    exact ⟨whole, part, wholeRendered, partRendered, wholeExecutes.same_drawing partExecutes⟩

/-- A curve with two rules of the same body, and a turn that is a terminal. -/
def twinCurve : List GrammarEdit :=
  [.setAction '+' "turnL", .addRule 'F' "F+F", .addRule 'F' "F+F"]

theorem renderFrom_executes_iteratedImage_twinCurve :
    let grammar := ofEdits twinCurve
    let single := ofEdits (twinCurve.take 2)
    let word : Word := [⟨1, 'F'⟩, ⟨0, '+'⟩]
    grammar.IsDeterministic ∧ grammar.IsKnownTo SilentTurtle.standard ∧
      grammar.alphabet.Lists word ∧
      grammar.executed 4 word (Script.mk [9]) = grammar.iteratedImage 4 word ∧
      (∃ whole part : Rendering SilentTurtle Script,
        grammar.renderFrom SilentTurtle.standard word (3 + 1) (Script.mk [9]) = .ok whole ∧
        grammar.renderFrom SilentTurtle.standard (grammar.iteratedImage 3 word) 1 (Script.mk []) =
          .ok part ∧
        whole.turtle = part.turtle ∧ whole.box = part.box ∧ whole.executed = part.executed) ∧
      single.HasSingleBodies ∧
      ∃ rendering : Rendering SilentTurtle Script,
        single.renderFrom SilentTurtle.standard word 4 (Script.mk [9]) = .ok rendering ∧
        rendering.source = Script.mk [9] := by
  have twin := @renderFrom_executes_iteratedImage SilentTurtle Script _ _ twinCurve (by decide)
    SilentTurtle.standard (by decide) [⟨1, 'F'⟩, ⟨0, '+'⟩] (by decide)
  have single := @renderFrom_executes_iteratedImage SilentTurtle Script _ _ (twinCurve.take 2)
    (by decide) SilentTurtle.standard (by decide) [⟨1, 'F'⟩, ⟨0, '+'⟩] (by decide)
  rcases (single.1 4 (Script.mk [9])).2 with ⟨rendering, rendered, _, untouched⟩
  exact ⟨by decide, by decide, by decide, (twin.1 4 (Script.mk [9])).1,
    twin.2 3 1 (Script.mk [9]) (Script.mk []), by decide, rendering, rendered,
    untouched (by decide)⟩

end Rendering

end Lindenmayer.Grammar
