import Mathlib.Data.List.Forall2
import Lindenmayer.Grammar.Comparison
import Lindenmayer.Proofs.Grammar.Construction
import Lindenmayer.Proofs.Turtle.Agreement

/-!
# Renaming

Two grammars that say the same of every character may number the characters in different
orders, bind different names and list characters that are of no use. No drawing shows it.

The argument is a simulation. Symbols of the two grammars are twins if they stand for
one character in use. Twins have as many bodies, and the bodies consist of twins. Since
a choice depends on nothing but the number of items, both grammars take the same choices
from one source, and what they derive consists of twins again.
-/

namespace Lindenmayer

namespace RandomSource

variable {ρ α β : Type} [RandomSource ρ]

/-- What is drawn depends on how many items there are, and on the source. -/
theorem draw_congr {count other : Nat} (same : count = other) (positive : 0 < count)
    (otherPositive : 0 < other) (source : ρ) :
    ((draw count positive source).1 : Nat) = (draw other otherPositive source).1 ∧
      (draw count positive source).2 = (draw other otherPositive source).2 := by
  subst same
  exact ⟨rfl, rfl⟩

/-- From lists that are related item by item, related items are chosen. -/
theorem choose_related {Related : α → β → Prop} {items : List α} {others : List β}
    (related : List.Forall₂ Related items others) (someItem : 0 < items.length)
    (someOther : 0 < others.length) (source : ρ) :
    Related (choose items someItem source).1 (choose others someOther source).1 ∧
      (choose items someItem source).2 = (choose others someOther source).2 := by
  rcases draw_congr related.length_eq someItem someOther source with ⟨sameIndex, sameRest⟩
  refine ⟨?_, sameRest⟩
  have here := related.get (draw items.length someItem source).1.isLt
    (sameIndex ▸ (draw others.length someOther source).1.isLt)
  simpa [choose, sameIndex] using here

end RandomSource

/-- Lists with equal images are related item by item if items with equal images are. -/
theorem forall₂_of_map_eq {α β γ : Type} {Related : α → β → Prop} {image : α → γ}
    {otherImage : β → γ} {items : List α} {others : List β}
    (same : items.map image = others.map otherImage)
    (each : ∀ item ∈ items, ∀ other ∈ others, image item = otherImage other →
      Related item other) : List.Forall₂ Related items others := by
  induction items generalizing others with
  | nil =>
      have empty : others = [] := by simpa using same.symm
      rw [empty]
      exact .nil
  | cons item rest inductionHypothesis =>
      cases others with
      | nil => simp at same
      | cons other otherRest =>
          rw [List.map_cons, List.map_cons, List.cons.injEq] at same
          refine .cons (each item (by simp) other (by simp) same.1) ?_
          apply inductionHypothesis same.2
          intro later laterMem otherLater otherLaterMem
          exact each later (by simp [laterMem]) otherLater (by simp [otherLaterMem])

namespace Grammar

section Simulation

/-- Whether related symbols of two grammars have bodies that are related symbol by symbol. -/
def Simulates (grammar other : Grammar) (Related : Symbol → Symbol → Prop) : Prop :=
  ∀ symbol twin, Related symbol twin →
    List.Forall₂ (List.Forall₂ Related) (grammar.alternatives symbol) (other.alternatives twin)

variable {ρ : Type} [RandomSource ρ] {grammar other : Grammar} {Related : Symbol → Symbol → Prop}

/-- Related symbols are both terminals, or related bodies are chosen with the same words left. -/
theorem Simulates.chooseBody_cases (simulates : grammar.Simulates other Related)
    {symbol twin : Symbol} (related : Related symbol twin) (source : ρ) :
    (grammar.alternatives symbol = [] ∧ other.alternatives twin = []) ∨
      ∃ body twinBody rest, List.Forall₂ Related body twinBody ∧
        grammar.chooseBody symbol source = (some body, rest) ∧
        other.chooseBody twin source = (some twinBody, rest) := by
  have bodies := simulates symbol twin related
  have sameLength := bodies.length_eq
  by_cases several : 1 < (grammar.alternatives symbol).length
  · have twinSeveral : 1 < (other.alternatives twin).length := sameLength ▸ several
    rcases RandomSource.choose_related bodies (Nat.lt_trans Nat.zero_lt_one several)
      (Nat.lt_trans Nat.zero_lt_one twinSeveral) source with ⟨relatedBodies, sameRest⟩
    refine .inr ⟨_, _, _, relatedBodies, chooseBody_of_several several source, ?_⟩
    rw [chooseBody_of_several twinSeveral, sameRest]
  · cases listed : grammar.alternatives symbol with
    | nil =>
        rw [listed, List.forall₂_nil_left_iff] at bodies
        exact .inl ⟨rfl, bodies⟩
    | cons body others =>
        have alone : others = [] := by
          rw [listed, List.length_cons] at several
          exact List.length_eq_zero_iff.mp (by omega)
        subst alone
        rw [listed, List.forall₂_cons_left_iff] at bodies
        rcases bodies with ⟨twinBody, twinOthers, relatedBodies, nothing, twinListed⟩
        rw [List.forall₂_nil_left_iff] at nothing
        subst nothing
        exact .inr ⟨body, twinBody, source, relatedBodies, chooseBody_of_single listed source,
          chooseBody_of_single twinListed source⟩

/-- From related words related words are derived, with the same random words. -/
theorem Simulates.derive (simulates : grammar.Simulates other Related) (rounds : Nat)
    {word twinWord : Word} (related : List.Forall₂ Related word twinWord) (source : ρ) :
    List.Forall₂ Related (grammar.derive rounds word source).1
        (other.derive rounds twinWord source).1 ∧
      (grammar.derive rounds word source).2 = (other.derive rounds twinWord source).2 := by
  induction rounds generalizing word twinWord source with
  | zero => exact ⟨related, rfl⟩
  | succ rounds roundsHypothesis =>
      induction related generalizing source with
      | nil => simp
      | @cons symbol twin rest twinRest relatedSymbols _ restHypothesis =>
          rcases simulates.chooseBody_cases relatedSymbols source with
            ⟨terminal, twinTerminal⟩ | ⟨body, twinBody, left, relatedBodies, chosen, twinChosen⟩
          · rcases restHypothesis source with ⟨relatedBacks, sameLeft⟩
            rw [derive_succ_cons_terminal _ _ _ _ _ terminal,
              derive_succ_cons_terminal _ _ _ _ _ twinTerminal]
            exact ⟨.cons relatedSymbols relatedBacks, sameLeft⟩
          · rcases roundsHypothesis relatedBodies left with ⟨relatedFronts, sameMiddle⟩
            rw [derive_succ_cons_chosen _ _ _ _ _ _ _ chosen,
              derive_succ_cons_chosen _ _ _ _ _ _ _ twinChosen]
            simp only [sameMiddle]
            rcases restHypothesis (other.derive rounds twinBody left).2 with
              ⟨relatedBacks, sameLeft⟩
            exact ⟨List.rel_append relatedFronts relatedBacks, sameLeft⟩

end Simulation

section Twins

variable {grammar other : Grammar}

/-- Whether symbols of two grammars stand for one character that is in use. -/
structure AreTwins (grammar other : Grammar) (symbol twin : Symbol) : Prop where
  listed : symbol ∈ grammar.alphabet.symbols
  twinListed : twin ∈ other.alphabet.symbols
  sameChar : symbol.char = twin.char
  used : grammar.Uses symbol.char

/-- The texts of a character are those of the bodies of its symbol. -/
theorem textsOf_char {symbol : Symbol} (listed : symbol ∈ grammar.alphabet.symbols) :
    grammar.textsOf symbol.char = grammar.bodyTexts symbol := by
  rw [textsOf, symbol?, Alphabet.resolve?_char_of_mem listed]
  rfl

theorem char_mem_text {word : Word} {symbol : Symbol} (symbolMem : symbol ∈ word) :
    symbol.char ∈ word.text.toList := by
  rw [Word.text, String.toList_ofList]
  exact List.mem_map_of_mem symbolMem

/-- Words of one text, made of symbols in use, consist of twins. -/
theorem areTwins_of_text_eq {word twinWord : Word} (sameText : word.text = twinWord.text)
    (listed : grammar.alphabet.Lists word) (twinListed : other.alphabet.Lists twinWord)
    (used : ∀ char ∈ word.text.toList, grammar.Uses char) :
    List.Forall₂ (grammar.AreTwins other) word twinWord := by
  have sameChars : word.map Symbol.char = twinWord.map Symbol.char :=
    String.ofList_injective sameText
  apply forall₂_of_map_eq sameChars
  intro symbol symbolMem twin twinMem sameChar
  exact ⟨listed symbol symbolMem, twinListed twin twinMem, sameChar,
    used symbol.char (char_mem_text symbolMem)⟩

/-- Bodies of twins consist of twins. -/
theorem SameTexts.simulates (same : grammar.SameTexts other) (closed : grammar.IsClosed)
    (otherClosed : other.IsClosed) : grammar.Simulates other (grammar.AreTwins other) := by
  intro symbol twin areTwins
  have sameTexts : grammar.bodyTexts symbol = other.bodyTexts twin := by
    rw [← textsOf_char areTwins.listed, ← textsOf_char areTwins.twinListed, ← areTwins.sameChar,
      same.texts]
  apply forall₂_of_map_eq sameTexts
  intro body bodyMem twinBody twinBodyMem sameText
  apply areTwins_of_text_eq sameText (closed.bodies symbol body bodyMem)
    (otherClosed.bodies twin twinBody twinBodyMem)
  intro char charMem
  refine .inr ⟨symbol.char, body.text, ?_, charMem⟩
  rw [textsOf_char areTwins.listed]
  exact List.mem_map_of_mem bodyMem

/-- In use are the characters of the initiator and those of the bodies that have been given. -/
theorem uses_ofEdits_iff {edits : List GrammarEdit} {char : Char} :
    (ofEdits edits).Uses char ↔
      char ∈ (ofEdits edits).initiator.text.toList ++ edits.flatMap GrammarEdit.bodyChars := by
  simp only [Uses, textsOf_ofEdits, List.mem_filterMap, List.mem_append, List.mem_flatMap]
  apply or_congr_right
  constructor
  · rintro ⟨head, text, ⟨edit, editMem, given⟩, charMem⟩
    refine ⟨edit, editMem, ?_⟩
    cases edit with
    | addRule ruled body =>
        simp only [GrammarEdit.bodyOf?, Option.ite_none_right_eq_some, Option.some.injEq] at given
        rwa [GrammarEdit.bodyChars, given.2]
    | _ => simp [GrammarEdit.bodyOf?] at given
  · rintro ⟨edit, editMem, charMem⟩
    cases edit with
    | addRule head text =>
        exact ⟨head, text, ⟨_, editMem, by simp [GrammarEdit.bodyOf?]⟩, charMem⟩
    | _ => simp [GrammarEdit.bodyChars] at charMem

variable {τ τ' : Type} [Turtle τ] [Turtle τ'] {turtle : τ} {otherTurtle : τ'}

theorem operationFor?_of_operationTable {table : OperationTable}
    (made : grammar.operationTable turtle = .ok table) {symbol : Symbol}
    (listed : symbol ∈ grammar.alphabet.symbols) :
    grammar.operationFor? turtle symbol.char = some (table.operationOf symbol) := by
  rw [operationFor?, symbol?, Alphabet.resolve?_char_of_mem listed, Option.bind_some,
    operationOf_of_operationTable made listed]
  rfl

/-- Twins are executed by the same operation. -/
theorem SameOperations.operationOf_eq (same : grammar.SameOperations other turtle otherTurtle)
    {table otherTable : OperationTable} (made : grammar.operationTable turtle = .ok table)
    (otherMade : other.operationTable otherTurtle = .ok otherTable) {symbol twin : Symbol}
    (areTwins : grammar.AreTwins other symbol twin) :
    table.operationOf symbol = otherTable.operationOf twin := by
  have agree := same.operations symbol.char areTwins.used
  rw [operationFor?_of_operationTable made areTwins.listed, areTwins.sameChar,
    operationFor?_of_operationTable otherMade areTwins.twinListed] at agree
  exact Option.some.inj agree

/-- Both grammars make their turtles perform the same operations. -/
theorem exists_operations_of_sameTexts (same : grammar.SameTexts other)
    (closed : grammar.IsClosed) (otherClosed : other.IsClosed)
    (sameOperations : grammar.SameOperations other turtle otherTurtle) {rounds : Int}
    (someRounds : 0 ≤ rounds) :
    ∃ operations : List Operation, ∃ drawing otherDrawing,
      grammar.renderInitiator turtle rounds = .ok drawing ∧
      other.renderInitiator otherTurtle rounds = .ok otherDrawing ∧
      drawing.turtle = Turtle.applyAll turtle operations ∧
      otherDrawing.turtle = Turtle.applyAll otherTurtle operations ∧
      drawing.box = .covering (Turtle.position turtle) (Turtle.trail turtle operations) ∧
      otherDrawing.box =
        .covering (Turtle.position otherTurtle) (Turtle.trail otherTurtle operations) := by
  rcases sameOperations.known.exists_operationTable with ⟨table, made⟩
  rcases sameOperations.otherKnown.exists_operationTable with ⟨otherTable, otherMade⟩
  have initiators : List.Forall₂ (grammar.AreTwins other) grammar.initiator other.initiator :=
    areTwins_of_text_eq same.initiator closed.initiator otherClosed.initiator fun _ => .inl
  have derived := ((same.simulates closed otherClosed).derive rounds.toNat initiators
    grammar.randomStream).1
  have sameStream : grammar.randomStream = other.randomStream := by
    rw [randomStream, randomStream, same.seed]
  have performed :
      (grammar.derive rounds.toNat grammar.initiator grammar.randomStream).1.map table.operationOf =
        (other.derive rounds.toNat other.initiator other.randomStream).1.map
          otherTable.operationOf := by
    rw [← List.forall₂_eq_eq_eq, List.forall₂_map_left_iff, List.forall₂_map_right_iff,
      ← sameStream]
    exact derived.imp fun _ _ => sameOperations.operationOf_eq made otherMade
  rcases exists_render_of_operationTable made someRounds grammar.initiator with
    ⟨drawing, rendered, moved, covered⟩
  rcases exists_render_of_operationTable otherMade someRounds other.initiator with
    ⟨otherDrawing, otherRendered, otherMoved, otherCovered⟩
  rw [← performed] at otherMoved otherCovered
  exact ⟨_, drawing, otherDrawing, rendered, otherRendered, moved, otherMoved, covered,
    otherCovered⟩

end Twins

/--
Grammars that give characters the same texts, on turtles for which the characters in use
stand for the same operations, make the same drawing: on silent turtles with equal pens
they end with equal boxes and pens; on tracing turtles that agree in pen and path they
end so as well, and the same commands are sent, whatever the sinks are.
-/
theorem renderInitiator_eq_of_sameTexts (edits others : List GrammarEdit)
    (same : (ofEdits edits).SameTexts (ofEdits others)) {rounds : Int} (someRounds : 0 ≤ rounds) :
    let grammar := ofEdits edits
    let other := ofEdits others
    (∀ turtle otherTurtle : SilentTurtle, grammar.SameOperations other turtle otherTurtle →
      turtle.pen = otherTurtle.pen →
        ∃ drawing otherDrawing, grammar.renderInitiator turtle rounds = .ok drawing ∧
          other.renderInitiator otherTurtle rounds = .ok otherDrawing ∧
          drawing.box = otherDrawing.box ∧ drawing.turtle.pen = otherDrawing.turtle.pen) ∧
    (∀ {σ σ' : Type} [PathSink σ] [PathSink σ'] (turtle : TracingTurtle σ)
      (otherTurtle : TracingTurtle σ'), grammar.SameOperations other turtle otherTurtle →
      turtle.pen = otherTurtle.pen → turtle.pathOpen = otherTurtle.pathOpen →
        ∃ drawing otherDrawing commands, grammar.renderInitiator turtle rounds = .ok drawing ∧
          other.renderInitiator otherTurtle rounds = .ok otherDrawing ∧
          drawing.box = otherDrawing.box ∧ drawing.turtle.pen = otherDrawing.turtle.pen ∧
          drawing.turtle.pathOpen = otherDrawing.turtle.pathOpen ∧
          drawing.turtle.sink = PathSink.emitAll turtle.sink commands ∧
          otherDrawing.turtle.sink = PathSink.emitAll otherTurtle.sink commands) := by
  intro grammar other
  have closed : grammar.IsClosed := isClosed_ofEdits edits
  have otherClosed : other.IsClosed := isClosed_ofEdits others
  constructor
  · intro turtle otherTurtle sameOperations samePen
    rcases exists_operations_of_sameTexts same closed otherClosed sameOperations someRounds with
      ⟨operations, drawing, otherDrawing, rendered, otherRendered, moved, otherMoved, covered,
        otherCovered⟩
    refine ⟨drawing, otherDrawing, rendered, otherRendered, ?_, ?_⟩
    · rw [covered, otherCovered]
      exact SilentTurtle.carriesPen.covering_eq SilentTurtle.carriesPen samePen operations
    · rw [moved, otherMoved, SilentTurtle.carriesPen.applyAll, SilentTurtle.carriesPen.applyAll,
        samePen]
  · intro σ σ' _ _ turtle otherTurtle sameOperations samePen samePath
    rcases exists_operations_of_sameTexts same closed otherClosed sameOperations someRounds with
      ⟨operations, drawing, otherDrawing, rendered, otherRendered, moved, otherMoved, covered,
        otherCovered⟩
    rw [← TurtleCall.performAll_map_ofOperation, TracingTurtle.performAll_eq] at moved otherMoved
    refine ⟨drawing, otherDrawing, TurtleCall.commandsOfAll turtle.pen turtle.pathOpen
      (operations.map TurtleCall.ofOperation), rendered, otherRendered, ?_, ?_, ?_, ?_, ?_⟩
    · rw [covered, otherCovered]
      exact TracingTurtle.carriesPen.covering_eq TracingTurtle.carriesPen samePen operations
    · rw [moved, otherMoved, samePen]
    · rw [moved, otherMoved, samePath]
    · rw [moved]
    · rw [otherMoved, samePen, samePath]

/-- A bush that either branches or grows. -/
def bush : List GrammarEdit :=
  [.setAction '[' "push", .setAction ']' "pop", .setInitiator "FF", .addRule 'F' "F[F]F",
    .addRule 'F' "FF"]

/-- The same bush, told in another order, with other names and with more characters. -/
def renamedBush : List GrammarEdit :=
  [.intern 'Z', .setInitiator "XYZ", .addRule 'F' "F[F]F", .setAction ']' "back",
    .setAction 'F' "paint", .addRule 'F' "FF", .setInitiator "FF", .setAction '[' "keep"]

def otherNames : Vocabulary :=
  ((Vocabulary.empty.register "paint" .draw).register "keep" .push).register "back" .pop

theorem renderInitiator_eq_of_sameTexts_bush :
    let grammar := ofEdits bush
    let other := ofEdits renamedBush
    let pen := Pen.underway
    let silent : SilentTurtle := ⟨pen, .standard⟩
    let otherSilent : SilentTurtle := ⟨pen, otherNames⟩
    let tracing : TracingTurtle (Array PathCommand) := ⟨pen, .standard, #[], true⟩
    let otherTracing : TracingTurtle (Array PathCommand) := ⟨pen, otherNames, #[.stroke], true⟩
    grammar.alphabet.chars ≠ other.alphabet.chars ∧ grammar.SameTexts other ∧
      grammar.SameOperations other silent otherSilent ∧
      grammar.SameOperations other tracing otherTracing ∧
      (∃ drawing otherDrawing, grammar.renderInitiator silent 3 = .ok drawing ∧
        other.renderInitiator otherSilent 3 = .ok otherDrawing ∧
        drawing.box = otherDrawing.box ∧ drawing.turtle.pen = otherDrawing.turtle.pen) ∧
      ∃ drawing otherDrawing commands, grammar.renderInitiator tracing 3 = .ok drawing ∧
        other.renderInitiator otherTracing 3 = .ok otherDrawing ∧
        drawing.box = otherDrawing.box ∧ drawing.turtle.pen = otherDrawing.turtle.pen ∧
        drawing.turtle.pathOpen = otherDrawing.turtle.pathOpen ∧
        drawing.turtle.sink = PathSink.emitAll tracing.sink commands ∧
        otherDrawing.turtle.sink = PathSink.emitAll otherTracing.sink commands := by
  intro grammar other pen silent otherSilent tracing otherTracing
  have sameTexts : grammar.SameTexts other := by
    refine ⟨by decide, rfl, ?_⟩
    intro char
    rw [textsOf_ofEdits, textsOf_ofEdits]
    rfl
  have silentSame : grammar.SameOperations other silent otherSilent := by
    refine ⟨by decide, by decide, ?_⟩
    intro char used
    rw [uses_ofEdits_iff] at used
    have listed : char ∈ "FFF[F]FFF".toList := used
    simp only [String.reduceToList, List.mem_cons, List.not_mem_nil, or_false] at listed
    rcases listed with rfl | rfl | rfl | rfl | rfl | rfl | rfl | rfl | rfl <;> rfl
  have tracingSame : grammar.SameOperations other tracing otherTracing :=
    ⟨silentSame.known, silentSame.otherKnown, silentSame.operations⟩
  have applied := renderInitiator_eq_of_sameTexts bush renamedBush sameTexts
    (by decide : 0 ≤ (3 : Int))
  exact ⟨by decide, sameTexts, silentSame, tracingSame,
    applied.1 silent otherSilent silentSame rfl,
    applied.2 tracing otherTracing tracingSame rfl rfl⟩

end Grammar

end Lindenmayer
