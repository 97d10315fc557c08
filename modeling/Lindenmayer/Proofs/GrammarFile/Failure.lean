import Lindenmayer.Proofs.GrammarFile.Building

/-!
# What a file that fails leaves behind

Keys are looked at one by one while a grammar is being told the entries. So a grammar that
a file has been added to up to a bad key has been told what stands before this key, and does
not go back to what it was. This comes to nothing only if nothing stands before the key. The
seed and the turtle come after all keys, hence they stay as they were.
-/

namespace Lindenmayer.GrammarFile

variable {τ : Type} [Turtle τ] {file : GrammarFile} {grammar : Grammar} {turtle : τ}
  {error : KeyError}

/-- Edits that give no seed leave the seed alone. -/
theorem seed_performAll {edits : List GrammarEdit}
    (seedless : edits.filterMap GrammarEdit.seed? = []) (grammar : Grammar) :
    (grammar.performAll edits).seed = grammar.seed := by
  induction edits generalizing grammar with
  | nil => rfl
  | cons edit rest inductionHypothesis =>
      have noSeeds := List.forall_mem_cons.mp (List.filterMap_eq_nil_iff.mp seedless)
      have restSeedless := List.filterMap_eq_nil_iff.mpr noSeeds.2
      apply (inductionHypothesis restSeedless (edit.perform grammar)).trans
      rw [Grammar.seed_perform, noSeeds.1]
      rfl

theorem filterMap_seed?_editsBefore (file : GrammarFile) (error : KeyError) :
    (file.editsBefore error).filterMap GrammarEdit.seed? = [] := by
  rcases error with ⟨table, key⟩
  cases table with
  | actions => exact filterMap_actionEdits_eq_nil (fun _ _ => rfl) _
  | rules =>
      have fromActions :
          (actionEdits file.actions.entries).filterMap GrammarEdit.seed? = [] :=
        filterMap_actionEdits_eq_nil (fun _ _ => rfl) _
      have fromRules :
          (ruleEdits (file.rules.entries.takeWhile (·.1 ≠ key))).filterMap GrammarEdit.seed? = [] :=
        filterMap_ruleEdits_eq_nil (fun _ _ => rfl) _
      simp only [editsBefore, leadingEdits, List.filterMap_append, fromActions, fromRules]
      rfl

/--
If adding a file fails, the turtle and the seed of the grammar are what they were before, and
the grammar has been told what the file says before its first bad key, and nothing else.
-/
theorem apply_failed_keeps (failed : (file.apply grammar turtle).outcome = .error error) :
    file.IsFirstBadKey error ∧
      (file.apply grammar turtle).turtle = turtle ∧
      (file.apply grammar turtle).grammar.seed = grammar.seed ∧
      (file.apply grammar turtle).grammar = grammar.performAll (file.editsBefore error) := by
  rcases file.apply_cases grammar turtle with ⟨_, applied⟩ | ⟨_, first, applied⟩
  · rw [applied] at failed
    simp at failed
  · rw [applied] at failed ⊢
    cases failed
    exact ⟨first, rfl, seed_performAll (file.filterMap_seed?_editsBefore _) grammar, rfl⟩

/-- A file with a bad key among the rules, behind a good one and behind all actions. -/
def brokenOff : GrammarFile where
  actions := .ofList [("F", "draw")]
  initiator := "FG"
  rules := .ofList [("G", .one "FF"), ("GG", .one "F"), ("H", .one "G")]
  parameters := some ⟨⟨2.0, 25.0⟩, none⟩
  seed := some 7

theorem apply_failed_keeps_brokenOff :
    (brokenOff.apply .empty SilentTurtle.standard).outcome = .error ⟨.rules, "GG"⟩ ∧
      (brokenOff.apply .empty SilentTurtle.standard).turtle = SilentTurtle.standard ∧
      (brokenOff.apply .empty SilentTurtle.standard).grammar =
        .ofEdits [.setAction 'F' "draw", .setInitiator "FG", .addRule 'G' "FF"] := by
  have failed : (brokenOff.apply .empty SilentTurtle.standard).outcome = .error ⟨.rules, "GG"⟩ := by
    decide
  have kept := apply_failed_keeps failed
  have told : brokenOff.editsBefore ⟨.rules, "GG"⟩ =
      [.setAction 'F' "draw", .setInitiator "FG", .addRule 'G' "FF"] := by
    decide
  rw [told] at kept
  exact ⟨failed, kept.2.1, kept.2.2.2⟩

/-- A grammar is not taken back to what it was when a file fails. -/
theorem apply_failed_changes_grammar :
    ¬∀ (file : GrammarFile) (edits : List GrammarEdit) (turtle : SilentTurtle) (error : KeyError),
      (file.apply (.ofEdits edits) turtle).outcome = .error error →
        (file.apply (.ofEdits edits) turtle).grammar = .ofEdits edits ∧
          (file.apply (.ofEdits edits) turtle).turtle = turtle := by
  intro keeps
  have unchanged := (keeps brokenOff [] .standard ⟨.rules, "GG"⟩ (by decide)).1
  have listed := congrArg (fun grammar => grammar.alphabet.chars) unchanged
  revert listed
  decide

end Lindenmayer.GrammarFile
