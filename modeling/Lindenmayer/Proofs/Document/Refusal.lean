import Lindenmayer.Proofs.Document.Completeness
import Lindenmayer.Proofs.Grammar.Refusal

/-!
# Documents are refused for the reasons for which drawings are

A document is checked before its header is written, and the drawing is checked once more
when it is made. The first check looks at the number of rounds itself and tries the names on
a turtle of its own; the second one is left to the grammar and the turtle that draws. They
come to the same, since only the names known to a turtle count. So what is refused is refused
at the first check, with nothing written, and the second one never fails.
-/

namespace Lindenmayer.DocumentStyle

section Checks

variable {σ : Type} [Turtle σ] {turtle : σ} {style : DocumentStyle} {grammar : Grammar}
  {rounds : Int}

/-- The check fails just as drawing does with any turtle that knows the same names. -/
theorem check_eq_error_iff {problem : RenderError}
    (sameNames : ∀ name, Turtle.resolve? turtle name = style.vocabulary.resolve? name) :
    style.check grammar rounds = .error problem ↔
      grammar.renderInitiator turtle rounds = .error problem := by
  have sameTable :
      grammar.operationTable { SilentTurtle.standard with vocabulary := style.vocabulary } =
        grammar.operationTable turtle :=
    Grammar.operationTable_congr fun name => (sameNames name).symm
  apply Iff.trans _ Grammar.render_eq_error_iff.symm
  by_cases negative : rounds < 0
  · simp [check, negative, Int.not_le.mpr negative, eq_comm]
  · simp [check, negative, Int.not_lt.mp negative, Grammar.checkActions_eq_error_iff, sameTable]

theorem exists_renderInitiator_of_check
    (sameNames : ∀ name, Turtle.resolve? turtle name = style.vocabulary.resolve? name)
    (checked : style.check grammar rounds = .ok ()) :
    ∃ rendering, grammar.renderInitiator turtle rounds = .ok rendering := by
  cases rendered : grammar.renderInitiator turtle rounds with
  | ok rendering => exact ⟨rendering, rfl⟩
  | error problem =>
      have refused := (check_eq_error_iff sameNames).mpr rendered
      simp [checked] at refused

end Checks

variable {τ δ : Type} [Turtle τ] [Device δ] {style : DocumentStyle} {grammar : Grammar}
  {start : τ} {rounds : Int} {channel : Channel δ}

/-- Behind the check only the device can fail. -/
theorem renderBody_ne_render_error (checked : style.check grammar rounds = .ok ())
    (writer : DocumentWriter δ) (problem : RenderError) :
    (style.renderBody grammar start rounds writer).1 ≠ .error (.render problem) := by
  have drawn :
      ∃ rendering, grammar.renderInitiator (style.drawingTurtle start writer) rounds =
        .ok rendering :=
    exists_renderInitiator_of_check (fun _ => rfl) checked
  rcases drawn with ⟨rendering, rendered⟩
  simp only [renderBody, rendered]
  rcases rendering.turtle.finish.trailer rendering.box with ⟨fault | _, afterTrailer⟩
  · simp
  · rcases finished : afterTrailer.finish with ⟨fault | _, last⟩ <;> simp [finished]

theorem render_eq_render_error_iff {problem : RenderError} :
    (style.render grammar start rounds channel).1 = .error (.render problem) ↔
      style.check grammar rounds = .error problem := by
  cases checked : style.check grammar rounds with
  | error refused => simp [render, checked]
  | ok _ =>
      simp only [render, checked, reduceCtorEq, iff_false]
      rcases (DocumentWriter.ofChannel channel).header style.title style.creator with
        ⟨fault | _, writer⟩
      · simp
      · exact renderBody_ne_render_error checked writer problem

theorem render_of_check_eq_error {problem : RenderError}
    (refused : style.check grammar rounds = .error problem) :
    style.render grammar start rounds channel = (.error (.render problem), channel) := by
  simp only [render, refused]

/--
A document is refused just when the grammar refuses to draw its initiator with a turtle that
knows the names of the style, and the same problem is told in the same words. The device is
then as it was, whatever device it is. Once the check has been passed, the turtle that draws
to a writer does not fail, whatever has been written by then.
-/
theorem render_refuses_as_renderInitiator (style : DocumentStyle) (grammar : Grammar) (start : τ)
    (rounds : Int) {σ : Type} [Turtle σ] (turtle : σ)
    (sameNames : ∀ name, Turtle.resolve? turtle name = style.vocabulary.resolve? name) :
    (∀ {δ : Type} [Device δ] (channel : Channel δ) (problem : RenderError),
      (style.render grammar start rounds channel).1 = .error (.render problem) →
        grammar.renderInitiator turtle rounds = .error problem ∧
        (DocumentError.render problem).message = problem.message ∧
        (style.render grammar start rounds channel).2 = channel) ∧
    (∀ problem, grammar.renderInitiator turtle rounds = .error problem →
      ∀ {δ : Type} [Device δ] (channel : Channel δ),
        style.render grammar start rounds channel = (.error (.render problem), channel)) ∧
    (style.check grammar rounds = .ok () →
      ∀ {δ : Type} [Device δ] (writer : DocumentWriter δ), ∃ rendering,
        grammar.renderInitiator (style.drawingTurtle start writer) rounds = .ok rendering) := by
  refine ⟨?_, ?_, ?_⟩
  · intro δ _ channel problem refused
    have checked := render_eq_render_error_iff.mp refused
    refine ⟨(check_eq_error_iff sameNames).mp checked, rfl, ?_⟩
    rw [render_of_check_eq_error checked]
  · intro problem refused δ _ channel
    exact render_of_check_eq_error ((check_eq_error_iff sameNames).mpr refused)
  · intro checked δ _ writer
    exact exists_renderInitiator_of_check (fun _ => rfl) checked

/-- A style with names of its own, of which one has a new meaning, and without the standard ones. -/
def ownNames : DocumentStyle where
  title := "own names"
  creator := defaultCreator
  vocabulary := (Vocabulary.empty.register "push" .stay).register "fly" .move

theorem render_refuses_as_renderInitiator_ownNames :
    let grammar := Grammar.ofEdits Grammar.strayNames
    let turtle : SilentTurtle := ⟨.standard, ownNames.vocabulary⟩
    let channel := (Channel.ofDevice Paper.mk).recorded
    grammar.renderInitiator turtle (-1) = .error (.negativeRounds (-1)) ∧
      ownNames.render grammar SilentTurtle.standard (-1) channel =
        (.error (.render (.negativeRounds (-1))), channel) ∧
      grammar.renderInitiator turtle 2 = .error (.unknownAction '+' "spin") ∧
      ownNames.render grammar SilentTurtle.standard 2 channel =
        (.error (.render (.unknownAction '+' "spin")), channel) := by
  intro grammar turtle channel
  have negative : grammar.renderInitiator turtle (-1) = .error (.negativeRounds (-1)) := rfl
  have unknown : grammar.renderInitiator turtle 2 = .error (.unknownAction '+' "spin") := by
    apply Grammar.render_eq_error_iff.mpr
    refine .inr ⟨by decide, Grammar.operationTable_eq_error_iff.mpr ⟨⟨2, '+'⟩, "spin", rfl, ?_⟩⟩
    exact ⟨by decide, by decide, [⟨0, '['⟩, ⟨1, 'Z'⟩], [⟨3, 'F'⟩], by decide, by decide⟩
  have agrees (rounds : Int) := ownNames.render_refuses_as_renderInitiator grammar
    SilentTurtle.standard rounds turtle fun _ => rfl
  exact ⟨negative, (agrees (-1)).2.1 _ negative channel, unknown,
    (agrees 2).2.1 _ unknown channel⟩

end Lindenmayer.DocumentStyle
