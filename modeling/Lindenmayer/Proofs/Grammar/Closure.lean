import Lindenmayer.Grammar.Construction
import Lindenmayer.Grammar.Derivation
import Lindenmayer.Proofs.Alphabet.Interning

/-!
# Closed grammars

However a grammar is built up, its initiator and its bodies are words over its own
alphabet. Derivation therefore never leaves the alphabet, and this is what lets a
table of operations, made once from the alphabet, serve for a whole rendering.
-/

namespace Lindenmayer.Grammar

/-- Whether the initiator and the bodies are words over the grammar's alphabet. -/
structure IsClosed (grammar : Grammar) : Prop where
  initiator : grammar.alphabet.Lists grammar.initiator
  bodies : ∀ symbol, ∀ body ∈ grammar.alternatives symbol, grammar.alphabet.Lists body

theorem isClosed_empty : IsClosed empty where
  initiator := Alphabet.lists_nil _
  bodies symbol body bodyMem := by
    rw [alternatives, empty, SymbolMap.get_empty] at bodyMem
    exact absurd bodyMem List.not_mem_nil

/-- Listing more characters, with all else left alone, keeps a grammar closed. -/
theorem IsClosed.of_extends {grammar grown : Grammar} (closed : grammar.IsClosed)
    (extended : grown.alphabet.Extends grammar.alphabet)
    (sameInitiator : grown.initiator = grammar.initiator)
    (sameBodies : grown.bodies = grammar.bodies) : grown.IsClosed where
  initiator := by
    rw [sameInitiator]
    exact closed.initiator.mono extended
  bodies symbol body bodyMem := by
    have oldMem : body ∈ grammar.alternatives symbol := by
      simpa [alternatives, sameBodies] using bodyMem
    exact (closed.bodies symbol body oldMem).mono extended

/-- The bodies after a rule has been added: one more for the symbols of the head's number. -/
theorem alternatives_addRule (grammar : Grammar) (char : Char) (text : String) (symbol : Symbol) :
    (grammar.addRule char text).alternatives symbol =
      if (grammar.intern char).1.id = symbol.id then
        grammar.alternatives (grammar.intern char).1 ++
          [((grammar.intern char).2.internText text).1]
      else grammar.alternatives symbol :=
  SymbolMap.get_modify grammar.bodies (grammar.intern char).1 symbol _

theorem IsClosed.addRule {grammar : Grammar} (closed : grammar.IsClosed) (char : Char)
    (text : String) : (grammar.addRule char text).IsClosed := by
  have extended : (grammar.addRule char text).alphabet.Extends grammar.alphabet :=
    ((grammar.alphabet.intern char).2.internText_extends text).trans
      (grammar.alphabet.intern_extends char)
  have oldBodies : ∀ symbol, ∀ body ∈ grammar.alternatives symbol,
      (grammar.addRule char text).alphabet.Lists body :=
    fun symbol body bodyMem => (closed.bodies symbol body bodyMem).mono extended
  refine ⟨closed.initiator.mono extended, ?_⟩
  intro symbol body bodyMem
  rw [alternatives_addRule] at bodyMem
  split at bodyMem
  · rcases List.mem_append.mp bodyMem with old | new
    · exact oldBodies _ body old
    · rw [List.mem_singleton] at new
      subst body
      exact (grammar.alphabet.intern char).2.internText_lists text
  · exact oldBodies symbol body bodyMem

theorem IsClosed.perform {grammar : Grammar} (closed : grammar.IsClosed) (edit : GrammarEdit) :
    (edit.perform grammar).IsClosed := by
  cases edit with
  | intern char =>
      exact closed.of_extends (grammar.alphabet.intern_extends char) rfl rfl
  | setAction char name =>
      exact closed.of_extends (grammar.alphabet.intern_extends char) rfl rfl
  | setInitiator text =>
      refine ⟨grammar.alphabet.internText_lists text, ?_⟩
      intro symbol body bodyMem
      exact (closed.bodies symbol body bodyMem).mono (grammar.alphabet.internText_extends text)
  | addRule char text => exact closed.addRule char text
  | setSeed seed =>
      exact closed.of_extends (Alphabet.Extends.refl grammar.alphabet) rfl rfl

theorem IsClosed.performAll {grammar : Grammar} (closed : grammar.IsClosed)
    (edits : List GrammarEdit) : (grammar.performAll edits).IsClosed := by
  induction edits generalizing grammar with
  | nil => exact closed
  | cons edit rest inductionHypothesis => exact inductionHypothesis (closed.perform edit)

/-- Every grammar that can be built up is closed. -/
theorem isClosed_ofEdits (edits : List GrammarEdit) : (ofEdits edits).IsClosed :=
  isClosed_empty.performAll edits

section Derivation

variable {ρ : Type} [RandomSource ρ] {grammar : Grammar}

/-- What is derived from a word over the alphabet is one as well. -/
theorem IsClosed.lists_derive (closed : grammar.IsClosed) (rounds : Nat) (word : Word)
    (listed : grammar.alphabet.Lists word) (source : ρ) :
    grammar.alphabet.Lists (grammar.derive rounds word source).1 := by
  induction rounds generalizing word source with
  | zero => exact listed
  | succ rounds roundsHypothesis =>
      induction word generalizing source with
      | nil => simp
      | cons symbol rest restHypothesis =>
          rw [Alphabet.lists_cons] at listed
          rcases grammar.chooseBody_cases symbol source with
            ⟨terminal, _⟩ | ⟨body, bodyMem, bodySource, chosen⟩
          · rw [derive_succ_cons_terminal _ _ _ _ _ terminal, Alphabet.lists_cons]
            exact ⟨listed.1, restHypothesis listed.2 source⟩
          · rw [derive_succ_cons_chosen _ _ _ _ _ _ _ chosen, Alphabet.lists_append]
            constructor
            · exact roundsHypothesis body (closed.bodies symbol body bodyMem) bodySource
            · exact restHypothesis listed.2 _

end Derivation

end Lindenmayer.Grammar
