import Lindenmayer.Proofs.Grammar.Construction
import Lindenmayer.Proofs.GrammarFile.Telling

/-!
# Grammars come out as their files say

What a grammar says of a character after some edits is known from the edits about this
character, and since a key occurs once in a table, these are what the file lists under the
character. The alphabet lists the characters in the order in which the edits mention them,
which is the order of the file with one exception: a rule without bodies is no edit, so its key
is looked at and not mentioned.
-/

namespace Lindenmayer.GrammarFile

section Contents

/-- Going through all entries of a table and taking up one key only is looking this key up. -/
theorem flatMap_eq_lookup {α β : Type} {entries : List (String × α)}
    (distinct : entries.Pairwise fun earlier later => earlier.1 < later.1) (key : String)
    (valuesOf : α → List β) {select : String × α → List β}
    (selected : ∀ entry ∈ entries, select entry = if entry.1 = key then valuesOf entry.2 else []) :
    entries.flatMap select = ((entries.lookup key).map valuesOf).getD [] := by
  induction entries with
  | nil => rfl
  | cons entry rest inductionHypothesis =>
      rcases entry with ⟨listed, value⟩
      rcases List.pairwise_cons.mp distinct with ⟨headLeast, restDistinct⟩
      rcases List.forall_mem_cons.mp selected with ⟨headSelected, restSelected⟩
      rw [List.flatMap_cons, headSelected, inductionHypothesis restDistinct restSelected]
      by_cases same : listed = key
      · have noFurther : rest.lookup key = none := by
          apply List.lookup_eq_none_iff.mpr
          intro later laterMem
          have before := headLeast later laterMem
          rw [same] at before
          simpa using fun equal => String.ne_of_lt before equal
        simp [same, noFurther]
      · have different : (key == listed) = false := by simpa using fun equal => same equal.symm
        simp [same, List.lookup_cons, different]

variable {file : GrammarFile}

/-! Each portion of the edits gives values of its own kind and no others. -/

section Portions

variable {β : Type} {value? : GrammarEdit → Option β}

theorem filterMap_actionEdits_eq_nil (unnamed : ∀ char name, value? (.setAction char name) = none)
    (entries : List (String × String)) : (actionEdits entries).filterMap value? = [] := by
  apply List.filterMap_eq_nil_iff.mpr
  intro edit editMem
  simp only [actionEdits, List.mem_flatMap, List.mem_map] at editMem
  rcases editMem with ⟨_, _, char, _, rfl⟩
  exact unnamed char _

theorem filterMap_ruleEdits_eq_nil (unruled : ∀ head text, value? (.addRule head text) = none)
    (entries : List (String × RuleBodies)) : (ruleEdits entries).filterMap value? = [] := by
  apply List.filterMap_eq_nil_iff.mpr
  intro edit editMem
  simp only [ruleEdits, List.mem_flatMap, List.mem_map] at editMem
  rcases editMem with ⟨_, _, text, _, head, _, rfl⟩
  exact unruled head text

theorem filterMap_seedEdits (value? : GrammarEdit → Option β) (file : GrammarFile) :
    file.seedEdits.filterMap value? = (file.seed.bind fun seed => value? (.setSeed seed)).toList := by
  unfold seedEdits
  cases file.seed with
  | none => rfl
  | some seed => cases value : value? (.setSeed seed) <;> simp [value]

theorem filterMap_edits (value? : GrammarEdit → Option β) (file : GrammarFile) :
    file.edits.filterMap value? =
      (actionEdits file.actions.entries).filterMap value? ++
        (value? (.setInitiator file.initiator)).toList ++
        (ruleEdits file.rules.entries).filterMap value? ++
        (file.seed.bind fun seed => value? (.setSeed seed)).toList := by
  simp only [edits, leadingEdits, List.filterMap_append, filterMap_seedEdits]
  cases value : value? (.setInitiator file.initiator) <;> simp [value]

end Portions

/-- The names told to a character are the one listed under it. -/
theorem filterMap_actionOf?_edits (single : ∀ entry ∈ file.actions.entries, entry.1.length = 1)
    (char : Char) :
    file.edits.filterMap (GrammarEdit.actionOf? char) =
      (file.actions.get? (String.singleton char)).toList := by
  have fromActions : (actionEdits file.actions.entries).filterMap (GrammarEdit.actionOf? char) =
      (file.actions.get? (String.singleton char)).toList := by
    rw [actionEdits, List.filterMap_flatMap, flatMap_eq_lookup file.actions.increasing
      (String.singleton char) fun name => [name]]
    · rw [KeyedTable.get?]
      cases file.actions.entries.lookup (String.singleton char) <;> rfl
    · intro entry entryMem
      rcases exists_eq_singleton (single entry entryMem) with ⟨bound, isBound⟩
      by_cases same : bound = char
      · simp [isBound, same, GrammarEdit.actionOf?]
      · simp [isBound, same, GrammarEdit.actionOf?]
  rw [filterMap_edits, fromActions, filterMap_ruleEdits_eq_nil fun _ _ => rfl]
  simp [GrammarEdit.actionOf?]

/-- The bodies told to a character are those listed under it. -/
theorem filterMap_bodyOf?_edits (single : ∀ entry ∈ file.rules.entries, entry.1.length = 1)
    (char : Char) :
    file.edits.filterMap (GrammarEdit.bodyOf? char) = file.bodiesFor char := by
  have fromRules : (ruleEdits file.rules.entries).filterMap (GrammarEdit.bodyOf? char) =
      file.bodiesFor char := by
    rw [ruleEdits, List.filterMap_flatMap, bodiesFor, KeyedTable.get?, flatMap_eq_lookup
      file.rules.increasing (String.singleton char) RuleBodies.toList]
    intro entry entryMem
    rcases exists_eq_singleton (single entry entryMem) with ⟨head, isHead⟩
    by_cases same : head = char
    · simp [isHead, same, GrammarEdit.bodyOf?, ← List.map_eq_flatMap, Function.comp_def]
    · simp [isHead, same, GrammarEdit.bodyOf?, ← List.map_eq_flatMap]
  rw [filterMap_edits, fromRules, filterMap_actionEdits_eq_nil fun _ _ => rfl]
  simp [GrammarEdit.bodyOf?]

theorem filterMap_initiator?_edits (file : GrammarFile) :
    file.edits.filterMap GrammarEdit.initiator? = [file.initiator] := by
  rw [filterMap_edits, filterMap_actionEdits_eq_nil fun _ _ => rfl,
    filterMap_ruleEdits_eq_nil fun _ _ => rfl]
  simp [GrammarEdit.initiator?]

theorem filterMap_seed?_edits (file : GrammarFile) :
    file.edits.filterMap GrammarEdit.seed? = file.seed.toList := by
  rw [filterMap_edits, filterMap_actionEdits_eq_nil fun _ _ => rfl,
    filterMap_ruleEdits_eq_nil fun _ _ => rfl]
  simp [GrammarEdit.seed?]

theorem mentioned_edits (single : ∀ key ∈ file.keys, key.2.length = 1) :
    GrammarEdit.mentioned file.edits = file.mentioned := by
  rcases forall_keys_iff.mp single with ⟨actionsSingle, rulesSingle⟩
  have ofActions : GrammarEdit.mentioned (actionEdits file.actions.entries) =
      file.actions.entries.flatMap fun entry => entry.1.toList := by
    rw [GrammarEdit.mentioned, actionEdits, List.flatMap_assoc]
    apply List.flatMap_congr
    intro entry entryMem
    rcases exists_eq_singleton (actionsSingle entry entryMem) with ⟨char, isChar⟩
    simp [isChar, GrammarEdit.mentions]
  have ofRules : GrammarEdit.mentioned (ruleEdits file.rules.entries) =
      file.rules.entries.flatMap fun entry =>
        entry.2.toList.flatMap fun body => entry.1.toList ++ body.toList := by
    rw [GrammarEdit.mentioned, ruleEdits, List.flatMap_assoc]
    apply List.flatMap_congr
    intro entry entryMem
    rcases exists_eq_singleton (rulesSingle entry entryMem) with ⟨char, isChar⟩
    simp [isChar, GrammarEdit.mentions, List.flatMap_assoc]
  have ofSeed : GrammarEdit.mentioned file.seedEdits = [] := by
    unfold seedEdits
    cases file.seed <;> rfl
  simp only [GrammarEdit.mentioned] at ofActions ofRules ofSeed
  simp [GrammarEdit.mentioned, edits, leadingEdits, mentioned, ofActions, ofRules, ofSeed,
    GrammarEdit.mentions]

end Contents

section Built

variable {file : GrammarFile}

theorem placeTurtle_standard (file : GrammarFile) :
    (file.placeTurtle SilentTurtle.standard).pen =
      ⟨(file.parameters.bind Parameters.start).getD .standard,
        (file.parameters.map Parameters.units).getD .standard, []⟩ := by
  unfold placeTurtle
  rcases file.parameters with _ | ⟨units, _ | pose⟩ <;> rfl

theorem build_eq (file : GrammarFile) :
    file.build = match file.apply .empty SilentTurtle.standard with
      | ⟨.error error, _, _⟩ => .error error
      | ⟨.ok (), grammar, turtle⟩ => .ok (grammar, turtle) :=
  rfl

theorem textsOf_eq_nil_iff {grammar : Grammar} {symbol : Symbol}
    (listed : symbol ∈ grammar.alphabet.symbols) :
    grammar.textsOf symbol.char = [] ↔ grammar.alternatives symbol = [] := by
  have known : grammar.symbol? symbol.char = some symbol := Alphabet.resolve?_char_of_mem listed
  simp [Grammar.textsOf, known, Grammar.bodyTexts]

/-- What comes of a file whose keys are characters is what the file describes. -/
theorem describes_edits (single : ∀ key ∈ file.keys, key.2.length = 1) :
    file.Describes (Grammar.ofEdits file.edits) (file.placeTurtle SilentTurtle.standard) where
  names char := by
    rw [Grammar.nameOf?_ofEdits, filterMap_actionOf?_edits (forall_keys_iff.mp single).1]
    cases file.actions.get? (String.singleton char) <;> rfl
  texts char := by
    rw [Grammar.textsOf_ofEdits, filterMap_bodyOf?_edits (forall_keys_iff.mp single).2]
  terminals symbol listed := by
    rw [← textsOf_eq_nil_iff listed, Grammar.textsOf_ofEdits,
      filterMap_bodyOf?_edits (forall_keys_iff.mp single).2]
  initiator := by
    rw [Grammar.text_initiator_ofEdits, filterMap_initiator?_edits]
    rfl
  seed := by
    rw [Grammar.seed_ofEdits, filterMap_seed?_edits]
    cases file.seed <;> rfl
  alphabet := by rw [Grammar.chars_ofEdits, mentioned_edits single]
  units := by rw [placeTurtle_standard]
  pose := by rw [placeTurtle_standard]
  saved := by rw [placeTurtle_standard]

/--
A grammar cannot be built just if some key is not a single character, and the first of those
keys is told. Otherwise a grammar and a turtle are built that have all that the file says and
nothing else.
-/
theorem build_describes (file : GrammarFile) :
    (∀ error, file.build = .error error ↔ file.IsFirstBadKey error) ∧
    ((∀ key ∈ file.keys, key.2.length = 1) →
      ∃ grammar turtle, file.build = .ok (grammar, turtle) ∧ file.Describes grammar turtle) := by
  rcases file.apply_cases .empty SilentTurtle.standard with
    ⟨single, applied⟩ | ⟨told, first, applied⟩
  · have built : file.build =
        .ok (Grammar.ofEdits file.edits, file.placeTurtle SilentTurtle.standard) := by
      rw [build_eq, applied]
      rfl
    refine ⟨?_, ?_⟩
    · intro error
      rw [built]
      constructor
      · intro impossible
        simp at impossible
      · intro first
        exact absurd single first.exists_bad
    · intro _
      exact ⟨_, _, built, describes_edits single⟩
  · have built : file.build = .error told := by
      rw [build_eq, applied]
    refine ⟨?_, ?_⟩
    · intro error
      rw [built]
      constructor
      · intro same
        cases same
        exact first
      · intro otherFirst
        rw [first.unique otherFirst]
    · intro single
      exact absurd single first.exists_bad

/-- A file with a rule that has no bodies, and with parameters that leave the pose open. -/
def thicket : GrammarFile where
  actions := .ofList [("]", "pop"), ("[", "push"), ("-", "turnR")]
  initiator := "XY"
  rules := .ofList [("X", .many ["F[-X]X", "", "FX"]), ("Z", .many []), ("F", .one "FF")]
  parameters := some ⟨⟨2.0, 25.0⟩, none⟩
  seed := some 7

/-- The same with keys that are not characters, in both tables. -/
def overgrownThicket : GrammarFile :=
  { thicket with
    actions := thicket.actions.insert "--" "turnR"
    rules := thicket.rules.insert "" (.one "F") }

theorem build_describes_thicket :
    (∃ grammar turtle, thicket.build = .ok (grammar, turtle) ∧
      grammar.alphabet.chars = ['-', '[', ']', 'X', 'Y', 'F'] ∧
      grammar.nameOf? '-' = some "turnR" ∧
      grammar.textsOf 'X' = ["F[-X]X", "", "FX"] ∧ grammar.textsOf 'Z' = [] ∧
      turtle.pen = ⟨.standard, ⟨2.0, 25.0⟩, []⟩) ∧
    overgrownThicket.build = .error ⟨.actions, "--"⟩ := by
  constructor
  · rcases (build_describes thicket).2 (by decide) with ⟨grammar, turtle, built, described⟩
    refine ⟨grammar, turtle, built, described.alphabet.trans (by decide),
      (described.names '-').trans (by decide), (described.texts 'X').trans (by decide),
      (described.texts 'Z').trans (by decide), ?_⟩
    exact Pen.ext described.pose described.units described.saved
  · apply ((build_describes overgrownThicket).1 _).mpr
    exact isFirstBadKey_iff.mpr (by decide)

end Built

end Lindenmayer.GrammarFile
