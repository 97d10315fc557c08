import Lindenmayer.Proofs.Alphabet.CharacterValues
import Lindenmayer.Proofs.Alphabet.FirstMention
import Lindenmayer.Proofs.Grammar.Closure

/-!
# What a grammar remembers

A grammar keeps names and bodies under numbers, and which character has which number
depends on the order of all mentions. Here it is shown that this cannot be seen from
outside: what a grammar says of a character is what it has been told of that character,
however the edits of other characters come in between.

Each edit is looked at once. It lists the characters that it mentions for the first time,
and it changes the name or the bodies of the character it is about and of no other.
-/

namespace Lindenmayer

/-- Picking the last value that items of a list give: one item more. -/
theorem getLast?_filterMap_concat {α β : Type} (value? : α → Option β) (items : List α)
    (item : α) :
    ((items ++ [item]).filterMap value?).getLast? =
      (value? item).or (items.filterMap value?).getLast? := by
  cases value : value? item <;> simp [List.filterMap_append, value]

namespace Grammar

section Step

variable {grammar : Grammar}

/-- An edit interns the characters that it mentions, in order. -/
theorem toStores_perform (grammar : Grammar) (edit : GrammarEdit) :
    (edit.perform grammar).alphabet.toStores =
      grammar.alphabet.toStores.internAll edit.mentions := by
  cases edit with
  | intern char => rfl
  | setAction char name => rfl
  | setInitiator text => exact grammar.alphabet.toStores_internChars text.toList
  | addRule char text =>
      -- Interning the head and then the text is interning them in one go.
      exact grammar.alphabet.toStores_internChars (char :: text.toList)
  | setSeed seed => rfl

theorem extends_perform (grammar : Grammar) (edit : GrammarEdit) :
    (edit.perform grammar).alphabet.Extends grammar.alphabet := by
  rw [Alphabet.Extends, toStores_perform, grammar.alphabet.consistent.chars_internAll]
  exact List.prefix_append _ _

theorem nameOf?_eq_valueOf (grammar : Grammar) (char : Char) :
    grammar.nameOf? char = grammar.actions.valueOf grammar.alphabet char := by
  rw [nameOf?, symbol?, SymbolMap.valueOf]
  cases grammar.alphabet.resolve? char <;> rfl

theorem textsOf_eq_valueOf (grammar : Grammar) (char : Char) :
    grammar.textsOf char = (grammar.bodies.valueOf grammar.alphabet char).map Word.text := by
  rw [textsOf, symbol?, SymbolMap.valueOf]
  cases grammar.alphabet.resolve? char <;> rfl

/-- Whether a grammar says nothing of numbers that its alphabet has not given away. -/
structure IsConfined (grammar : Grammar) : Prop where
  actions : grammar.actions.IsConfinedTo grammar.alphabet
  bodies : grammar.bodies.IsConfinedTo grammar.alphabet

theorem isConfined_empty : IsConfined empty where
  actions := SymbolMap.isConfinedTo_empty _
  bodies := SymbolMap.isConfinedTo_empty _

theorem IsConfined.perform (confined : grammar.IsConfined) (edit : GrammarEdit) :
    (edit.perform grammar).IsConfined := by
  have grown := grammar.extends_perform edit
  have oldActions := confined.actions.mono grown
  have oldBodies := confined.bodies.mono grown
  cases edit with
  | setAction char name =>
      exact ⟨oldActions.modify (grammar.alphabet.intern_mem_symbols char) _, oldBodies⟩
  | addRule char text =>
      have listed := Alphabet.mem_symbols_of_extends
        ((grammar.alphabet.intern char).2.internText_extends text)
        (grammar.alphabet.intern_mem_symbols char)
      exact ⟨oldActions, oldBodies.modify listed _⟩
  | _ => exact ⟨oldActions, oldBodies⟩

/-- An edit changes the name of the character it is about, if it gives a name. -/
theorem IsConfined.nameOf?_perform (confined : grammar.IsConfined) (edit : GrammarEdit)
    (char : Char) :
    (edit.perform grammar).nameOf? char = (edit.actionOf? char).or (grammar.nameOf? char) := by
  have unchanged := confined.actions.valueOf_of_extends (grammar.extends_perform edit) char
  rw [nameOf?_eq_valueOf, nameOf?_eq_valueOf]
  cases edit with
  | setAction bound name =>
      have changed := grammar.actions.valueOf_modify
        (grammar.alphabet.resolve?_intern bound) (fun _ => some name) char
      refine changed.trans ?_
      by_cases same : bound = char
      · simp [GrammarEdit.actionOf?, same]
      · rw [if_neg same]
        refine unchanged.trans ?_
        simp [GrammarEdit.actionOf?, same]
  | _ => exact unchanged

/-- An edit adds a body to those of the character it is about, if it gives a body. -/
theorem IsConfined.textsOf_perform (confined : grammar.IsConfined) (edit : GrammarEdit)
    (char : Char) :
    (edit.perform grammar).textsOf char =
      grammar.textsOf char ++ (edit.bodyOf? char).toList := by
  have unchanged := confined.bodies.valueOf_of_extends (grammar.extends_perform edit) char
  rw [textsOf_eq_valueOf, textsOf_eq_valueOf]
  cases edit with
  | addRule head text =>
      change grammar.bodies.valueOf (grammar.addRule head text).alphabet char = _ at unchanged
      have known : (grammar.addRule head text).alphabet.resolve? head =
          some (grammar.alphabet.intern head).1 :=
        Alphabet.resolve?_of_extends ((grammar.alphabet.intern head).2.internText_extends text)
          (grammar.alphabet.resolve?_intern head)
      have changed := grammar.bodies.valueOf_modify known
        (· ++ [((grammar.alphabet.intern head).2.internText text).1]) char
      refine (congrArg (List.map Word.text) changed).trans ?_
      by_cases same : head = char
      · rw [if_pos same, List.map_append, unchanged]
        simp [GrammarEdit.bodyOf?, same, Alphabet.text_internText]
      · rw [if_neg same, unchanged]
        simp [GrammarEdit.bodyOf?, same]
  | _ => exact (congrArg (List.map Word.text) unchanged).trans (List.append_nil _).symm

theorem text_initiator_perform (grammar : Grammar) (edit : GrammarEdit) :
    (edit.perform grammar).initiator.text = edit.initiator?.getD grammar.initiator.text := by
  cases edit with
  | setInitiator text => exact grammar.alphabet.text_internText text
  | _ => rfl

theorem seed_perform (grammar : Grammar) (edit : GrammarEdit) :
    (edit.perform grammar).seed = edit.seed?.getD grammar.seed := by
  cases edit <;> rfl

/-- The symbol that an edit is answered with is listed from then on. -/
theorem mem_symbols_of_answer? {edit : GrammarEdit} {symbol : Symbol}
    (answered : edit.answer? grammar = some symbol) :
    symbol ∈ (edit.perform grammar).alphabet.symbols := by
  cases edit with
  | intern char =>
      cases answered
      exact grammar.alphabet.intern_mem_symbols char
  | setAction char name =>
      cases answered
      exact grammar.alphabet.intern_mem_symbols char
  | _ => simp [GrammarEdit.answer?] at answered

end Step

section Run

theorem ofEdits_concat (edits : List GrammarEdit) (edit : GrammarEdit) :
    ofEdits (edits ++ [edit]) = edit.perform (ofEdits edits) :=
  performAll_append empty edits [edit]

theorem extends_performAll (grammar : Grammar) (edits : List GrammarEdit) :
    (grammar.performAll edits).alphabet.Extends grammar.alphabet := by
  induction edits generalizing grammar with
  | nil => exact Alphabet.Extends.refl _
  | cons edit rest inductionHypothesis =>
      exact (inductionHypothesis (edit.perform grammar)).trans (grammar.extends_perform edit)

theorem extends_ofEdits_append (earlier later : List GrammarEdit) :
    (ofEdits (earlier ++ later)).alphabet.Extends (ofEdits earlier).alphabet := by
  rw [ofEdits, performAll_append]
  exact extends_performAll _ later

theorem isConfined_ofEdits (edits : List GrammarEdit) : (ofEdits edits).IsConfined := by
  induction edits using List.reverseRecOn with
  | nil => exact isConfined_empty
  | append_singleton edits edit inductionHypothesis =>
      rw [ofEdits_concat]
      exact inductionHypothesis.perform edit

/-- A grammar has interned the characters mentioned, in order, and nothing else. -/
theorem toStores_ofEdits (edits : List GrammarEdit) :
    (ofEdits edits).alphabet.toStores =
      Alphabet.Stores.empty.internAll (GrammarEdit.mentioned edits) := by
  induction edits using List.reverseRecOn with
  | nil => rfl
  | append_singleton edits edit inductionHypothesis =>
      have mentions : GrammarEdit.mentioned (edits ++ [edit]) =
          GrammarEdit.mentioned edits ++ edit.mentions := by
        simp [GrammarEdit.mentioned]
      rw [ofEdits_concat, toStores_perform, inductionHypothesis, mentions,
        Alphabet.Stores.internAll_append]

/-- A grammar lists the characters mentioned, each at its first mention. -/
theorem chars_ofEdits (edits : List GrammarEdit) :
    (ofEdits edits).alphabet.chars = firstOccurrences (GrammarEdit.mentioned edits) := by
  rw [toStores_ofEdits, Alphabet.Stores.isConsistent_empty.chars_internAll]
  rfl

/-- The name of a character is the one it has been given last. -/
theorem nameOf?_ofEdits (edits : List GrammarEdit) (char : Char) :
    (ofEdits edits).nameOf? char =
      (edits.filterMap (GrammarEdit.actionOf? char)).getLast? := by
  induction edits using List.reverseRecOn with
  | nil => rfl
  | append_singleton edits edit inductionHypothesis =>
      rw [ofEdits_concat, (isConfined_ofEdits edits).nameOf?_perform, inductionHypothesis,
        getLast?_filterMap_concat]

/-- The bodies of a character are those it has been given, in order. -/
theorem textsOf_ofEdits (edits : List GrammarEdit) (char : Char) :
    (ofEdits edits).textsOf char = edits.filterMap (GrammarEdit.bodyOf? char) := by
  induction edits using List.reverseRecOn with
  | nil => rfl
  | append_singleton edits edit inductionHypothesis =>
      rw [ofEdits_concat, (isConfined_ofEdits edits).textsOf_perform, inductionHypothesis,
        List.filterMap_append]
      cases body : edit.bodyOf? char <;> simp [body]

theorem text_initiator_ofEdits (edits : List GrammarEdit) :
    (ofEdits edits).initiator.text =
      ((edits.filterMap GrammarEdit.initiator?).getLast?).getD "" := by
  induction edits using List.reverseRecOn with
  | nil => rfl
  | append_singleton edits edit inductionHypothesis =>
      rw [ofEdits_concat, text_initiator_perform, inductionHypothesis, getLast?_filterMap_concat]
      cases edit.initiator? <;> rfl

theorem seed_ofEdits (edits : List GrammarEdit) :
    (ofEdits edits).seed = ((edits.filterMap GrammarEdit.seed?).getLast?).getD defaultSeed := by
  induction edits using List.reverseRecOn with
  | nil => rfl
  | append_singleton edits edit inductionHypothesis =>
      rw [ofEdits_concat, seed_perform, inductionHypothesis, getLast?_filterMap_concat]
      cases edit.seed? <;> rfl

/-- A symbol that has been handed out at some stage is listed in the end. -/
theorem HandedOut.listed {edits : List GrammarEdit} {symbol : Symbol}
    (handedOut : HandedOut edits symbol) : symbol ∈ (ofEdits edits).alphabet.symbols := by
  cases handedOut with
  | answer earlier later edit order answered =>
      have atOnce := mem_symbols_of_answer? answered
      rw [← ofEdits_concat] at atOnce
      rw [order, ← List.singleton_append, ← List.append_assoc]
      exact Alphabet.mem_symbols_of_extends (extends_ofEdits_append _ later) atOnce
  | listing earlier later order listed =>
      rw [order]
      exact Alphabet.mem_symbols_of_extends (extends_ofEdits_append earlier later) listed

/--
Whatever a grammar has been told, and in whatever order, it says of each character what
it has been told of it, and symbols handed out on the way keep their meaning.
-/
theorem ofEdits_records (edits : List GrammarEdit) : (ofEdits edits).Records edits where
  stores := toStores_ofEdits edits
  consistent := by
    rw [toStores_ofEdits]
    exact Alphabet.Stores.isConsistent_empty.internAll _
  symbols := by rw [← chars_ofEdits, Alphabet.symbols]
  ordered := by
    have chars : (ofEdits edits).alphabet.symbols.map Symbol.char =
        firstOccurrences (GrammarEdit.mentioned edits) := by
      rw [← chars_ofEdits]
      simp [Alphabet.symbols, Function.comp_def]
    rw [chars]
    exact pairwise_idxOf_firstOccurrences _
  fits symbol listed := by
    have inside := Alphabet.id_lt_size_of_mem listed
    have few := (ofEdits edits).alphabet.size_le
    exact Nat.lt_of_lt_of_le inside (Nat.le_trans few (by decide))
  entry char symbol := Alphabet.resolve?_eq_some_iff
  noEntry char := by
    rw [symbol?, Alphabet.resolve?_eq_none_iff, chars_ofEdits, mem_firstOccurrences]
  name := nameOf?_ofEdits edits
  texts := textsOf_ofEdits edits
  initiator := text_initiator_ofEdits edits
  seed := seed_ofEdits edits
  ownInitiator symbol symbolMem :=
    Alphabet.resolve?_char_of_mem ((isClosed_ofEdits edits).initiator symbol symbolMem)
  ownBodies head body bodyMem symbol symbolMem :=
    Alphabet.resolve?_char_of_mem
      ((isClosed_ofEdits edits).bodies head body bodyMem symbol symbolMem)
  kept symbol handedOut :=
    ⟨Alphabet.resolve?_char_of_mem handedOut.listed, Alphabet.mem_symbols_iff.mp handedOut.listed⟩

end Run

end Grammar

end Lindenmayer
