import Lindenmayer.GrammarFile.Contents

/-!
# Going through a grammar file

Going through a table stops at the first key that is not a single character, and by then the
grammar has been told the entries before it. For actions and for rules this is one argument,
kept in `GrammarFile.Told`. A whole file is thus either told in full, or up to its first bad
key; in the second case neither seed nor turtle have been reached.
-/

namespace Lindenmayer.GrammarFile

section Keys

theorem length_singleton (char : Char) : (String.singleton char).length = 1 := by
  simp

/-- A key is a character just if it is one character long. -/
theorem singleChar?_cases (key : String) :
    (∃ char, key = String.singleton char ∧ singleChar? key = some char) ∨
      (key.length ≠ 1 ∧ singleChar? key = none) := by
  rw [← String.length_toList]
  unfold singleChar?
  match chars : key.toList with
  | [] => exact .inr ⟨by simp, rfl⟩
  | [char] =>
      refine .inl ⟨char, ?_, rfl⟩
      apply String.toList_inj.mp
      simp [chars]
  | _ :: _ :: _ => exact .inr ⟨by simp, rfl⟩

theorem exists_eq_singleton {key : String} (single : key.length = 1) :
    ∃ char, key = String.singleton char := by
  rcases singleChar?_cases key with ⟨char, isChar, _⟩ | ⟨bad, _⟩
  · exact ⟨char, isChar⟩
  · exact absurd single bad

end Keys

section Telling

variable {α : Type} {table : FileTable} {editsOf : List (String × α) → List GrammarEdit}
  {grammar : Grammar} {entry : String × α} {rest : List (String × α)}
  {result : Except KeyError Unit × Grammar}

/-- One entry more at the front, if its key is a character. -/
theorem Told.cons (additive : ∀ entries, editsOf (entry :: entries) = editsOf [entry] ++ editsOf entries)
    (single : entry.1.length = 1)
    (told : Told table editsOf (grammar.performAll (editsOf [entry])) rest result) :
    Told table editsOf grammar (entry :: rest) result := by
  cases told with
  | all restSingle =>
      rw [← Grammar.performAll_append, ← additive]
      apply Told.all
      exact List.forall_mem_cons.mpr ⟨single, restSingle⟩
  | upTo before key value after split beforeSingle bad =>
      rw [← Grammar.performAll_append, ← additive]
      apply Told.upTo (entry :: before) key value after
      · rw [split, List.cons_append]
      · exact List.forall_mem_cons.mpr ⟨single, beforeSingle⟩
      · exact bad

theorem addActions_told (grammar : Grammar) (entries : List (String × String)) :
    Told .actions actionEdits grammar entries (addActions grammar entries) := by
  induction entries generalizing grammar with
  | nil => exact .all (by simp)
  | cons entry rest inductionHypothesis =>
      rcases entry with ⟨key, name⟩
      rcases singleChar?_cases key with ⟨char, rfl, isChar⟩ | ⟨bad, noChar⟩
      · simp only [addActions, isChar]
        apply Told.cons
        · intro entries
          simp [actionEdits]
        · exact length_singleton char
        · have edits : actionEdits [(String.singleton char, name)] = [.setAction char name] := by
            simp [actionEdits]
          rw [edits]
          exact inductionHypothesis (grammar.setAction char name)
      · simp only [addActions, noChar]
        exact .upTo [] key name rest rfl (by simp) bad

theorem addBodies_eq (grammar : Grammar) (char : Char) (bodies : List String) :
    addBodies grammar char bodies =
      grammar.performAll (bodies.map fun body => .addRule char body) := by
  simp [addBodies, Grammar.performAll, List.foldl_map, GrammarEdit.perform]

theorem addRules_told (grammar : Grammar) (entries : List (String × RuleBodies)) :
    Told .rules ruleEdits grammar entries (addRules grammar entries) := by
  induction entries generalizing grammar with
  | nil => exact .all (by simp)
  | cons entry rest inductionHypothesis =>
      rcases entry with ⟨key, bodies⟩
      rcases singleChar?_cases key with ⟨char, rfl, isChar⟩ | ⟨bad, noChar⟩
      · simp only [addRules, isChar]
        apply Told.cons
        · intro entries
          simp [ruleEdits]
        · exact length_singleton char
        · have edits : ruleEdits [(String.singleton char, bodies)] =
              bodies.toList.map fun body => .addRule char body := by
            simp [ruleEdits, List.map_eq_flatMap]
          rw [edits, ← addBodies_eq]
          exact inductionHypothesis (addBodies grammar char bodies.toList)
      · simp only [addRules, noChar]
        exact .upTo [] key bodies rest rfl (by simp) bad

theorem takeWhile_before {before after : List (String × α)} {key : String} {value : α}
    (single : ∀ entry ∈ before, entry.1.length = 1) (bad : key.length ≠ 1) :
    (before ++ (key, value) :: after).takeWhile (·.1 ≠ key) = before := by
  rw [List.takeWhile_append_of_pos]
  · simp
  · intro entry entryMem
    have different : entry.1 ≠ key := by
      intro same
      exact bad (same ▸ single entry entryMem)
    simpa using different

end Telling

section Applying

variable {τ : Type} [Turtle τ] {file : GrammarFile} {key : String}

theorem forall_keys_iff :
    (∀ key ∈ file.keys, key.2.length = 1) ↔
      (∀ entry ∈ file.actions.entries, entry.1.length = 1) ∧
        ∀ entry ∈ file.rules.entries, entry.1.length = 1 := by
  simp only [keys, List.forall_mem_append, List.forall_mem_map]

theorem isFirstBadKey_of_actions {before after : List (String × String)} {name : String}
    (split : file.actions.entries = before ++ (key, name) :: after)
    (single : ∀ entry ∈ before, entry.1.length = 1) (bad : key.length ≠ 1) :
    file.IsFirstBadKey ⟨.actions, key⟩ where
  bad := bad
  first := by
    refine ⟨before.map fun entry => (.actions, entry.1),
      after.map (fun entry => (.actions, entry.1)) ++
        file.rules.entries.map fun entry => (.rules, entry.1), ?_, ?_⟩
    · simp [keys, split]
    · intro earlier earlierMem
      rcases List.mem_map.mp earlierMem with ⟨entry, entryMem, rfl⟩
      exact single entry entryMem

theorem isFirstBadKey_of_rules {before after : List (String × RuleBodies)} {bodies : RuleBodies}
    (actionsSingle : ∀ entry ∈ file.actions.entries, entry.1.length = 1)
    (split : file.rules.entries = before ++ (key, bodies) :: after)
    (single : ∀ entry ∈ before, entry.1.length = 1) (bad : key.length ≠ 1) :
    file.IsFirstBadKey ⟨.rules, key⟩ where
  bad := bad
  first := by
    refine ⟨file.actions.entries.map (fun entry => (.actions, entry.1)) ++
      before.map fun entry => (.rules, entry.1), after.map fun entry => (.rules, entry.1), ?_, ?_⟩
    · simp [keys, split]
    · intro earlier earlierMem
      rcases List.mem_append.mp earlierMem with inActions | inRules
      · rcases List.mem_map.mp inActions with ⟨entry, entryMem, rfl⟩
        exact actionsSingle entry entryMem
      · rcases List.mem_map.mp inRules with ⟨entry, entryMem, rfl⟩
        exact single entry entryMem

theorem IsFirstBadKey.exists_bad {error : KeyError} (first : file.IsFirstBadKey error) :
    ¬∀ key ∈ file.keys, key.2.length = 1 := by
  intro allSingle
  rcases first.first with ⟨before, after, split, _⟩
  apply first.bad
  exact allSingle (error.table, error.key) (by simp [split])

theorem isFirstBadKey_iff {error : KeyError} :
    file.IsFirstBadKey error ↔
      file.keys.find? (·.2.length ≠ 1) = some (error.table, error.key) := by
  rw [List.find?_eq_some_iff_append]
  constructor
  · rintro ⟨bad, before, after, split, single⟩
    exact ⟨by simpa using bad, before, after, split, by simpa using single⟩
  · rintro ⟨bad, before, after, split, single⟩
    exact ⟨by simpa using bad, before, after, split, by simpa using single⟩

/-- There is one first bad key at most. -/
theorem IsFirstBadKey.unique {error other : KeyError} (first : file.IsFirstBadKey error)
    (otherFirst : file.IsFirstBadKey other) : error = other := by
  have found := isFirstBadKey_iff.mp first
  rw [isFirstBadKey_iff.mp otherFirst, Option.some.injEq, Prod.mk.injEq] at found
  rcases error
  rcases other
  simp_all

theorem setSeed_eq (file : GrammarFile) (grammar : Grammar) :
    file.setSeed grammar = grammar.performAll file.seedEdits := by
  unfold setSeed seedEdits
  cases file.seed <;> rfl

/-- A file is gone through to its end, or up to its first bad key and then no turtle is touched. -/
theorem apply_cases (file : GrammarFile) (grammar : Grammar) (turtle : τ) :
    ((∀ key ∈ file.keys, key.2.length = 1) ∧
      file.apply grammar turtle =
        ⟨.ok (), grammar.performAll file.edits, file.placeTurtle turtle⟩) ∨
    ∃ error, file.IsFirstBadKey error ∧
      file.apply grammar turtle =
        ⟨.error error, grammar.performAll (file.editsBefore error), turtle⟩ := by
  have actionsTold := addActions_told grammar file.actions.entries
  unfold apply addTo
  generalize addActions grammar file.actions.entries = afterActions at actionsTold
  cases actionsTold with
  | upTo before key name after split single bad =>
      refine .inr ⟨⟨.actions, key⟩, isFirstBadKey_of_actions split single bad, ?_⟩
      simp only [editsBefore, split, takeWhile_before single bad]
  | all actionsSingle =>
      have leading : (grammar.performAll (actionEdits file.actions.entries)).setInitiator
          file.initiator = grammar.performAll file.leadingEdits := by
        rw [leadingEdits, Grammar.performAll_append]
        rfl
      simp only [leading]
      have rulesTold := addRules_told (grammar.performAll file.leadingEdits) file.rules.entries
      generalize addRules (grammar.performAll file.leadingEdits) file.rules.entries = afterRules
        at rulesTold
      cases rulesTold with
      | upTo before key bodies after split single bad =>
          refine .inr ⟨⟨.rules, key⟩, isFirstBadKey_of_rules actionsSingle split single bad, ?_⟩
          simp only [editsBefore, split, takeWhile_before single bad, Grammar.performAll_append]
      | all rulesSingle =>
          refine .inl ⟨forall_keys_iff.mpr ⟨actionsSingle, rulesSingle⟩, ?_⟩
          simp only [edits, Grammar.performAll_append, setSeed_eq]

end Applying

end Lindenmayer.GrammarFile
