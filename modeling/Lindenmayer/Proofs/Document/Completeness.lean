import Lindenmayer.Grammar.Construction
import Lindenmayer.Proofs.Document.Composition

/-!
# Success means the whole document

Faults come to light in three ways: header and trailer report theirs at once, those of
path commands are kept to the end, and flushing has one of its own. Still a document is
reported as rendered only if nothing at all has gone wrong, and then the device has got all
of it.
-/

namespace Lindenmayer.DocumentStyle

section Courses

variable {header body trailer : List String} {events : List DeviceEvent}
  {outcome : Except Fault Unit}

/-- A course ends well just if nothing has gone wrong on the way. -/
theorem Course.outcome_eq_ok_iff (course : Course header body trailer events outcome) :
    outcome = .ok () ↔ ∀ event ∈ events, event.fault? = none := by
  have faulty {fault problem : Fault} (someFault : ∃ event ∈ events, event.fault? = some fault) :
      Except.error problem = .ok () ↔ ∀ event ∈ events, event.fault? = none := by
    rcases someFault with ⟨event, eventMem, broken⟩
    constructor
    · intro impossible
      simp at impossible
    · intro allWell
      simp [allWell event eventMem] at broken
  cases course with
  | complete =>
      simp only [true_iff]
      intro event eventMem
      rcases List.mem_append.mp eventMem with offered | flushed
      · exact DeviceEvent.fault?_of_mem_map_ofTaken offered
      · rw [List.mem_singleton.mp flushed]
        rfl
  | headerBreaks breaksOff => exact faulty breaksOff.exists_fault
  | bodyBreaks breaksOff =>
      rcases breaksOff.exists_fault with ⟨event, eventMem, broken⟩
      exact faulty ⟨event, by simp [eventMem], broken⟩
  | bodyAndTrailerBreak _ breaksOff =>
      rcases breaksOff.exists_fault with ⟨event, eventMem, broken⟩
      exact faulty ⟨event, by simp [eventMem], broken⟩
  | trailerBreaks breaksOff =>
      rcases breaksOff.exists_fault with ⟨event, eventMem, broken⟩
      exact faulty ⟨event, by simp [eventMem], broken⟩
  | flushFails fault => exact faulty ⟨.flush (.error fault), by simp, rfl⟩

theorem Course.events_of_ok (course : Course header body trailer events (.ok ())) :
    events = (header ++ body ++ trailer).map .ofTaken ++ [.flush (.ok ())] := by
  cases course
  rfl

end Courses

variable {τ δ : Type} [Turtle τ] [Device δ]

theorem toUTF8_join_append (first second : List String) :
    (String.join (first ++ second)).toUTF8 =
      (String.join first).toUTF8 ++ (String.join second).toUTF8 := by
  rw [String.join_append]
  exact String.toByteArray_append

theorem received_of_writeBody {commands : List PathCommand} {box : Box} {channel last : Channel δ}
    (written : writeBody commands box channel = (.ok (), last)) :
    last.received = channel.received ++
      (String.join (body commands ++ Document.trailerLines box)).toUTF8 := by
  unfold writeBody at written
  rcases drawn : channel.writeAll (body commands) with ⟨bodyFault | _, afterBody⟩
  · rcases trailed : afterBody.writeAll (Document.trailerLines box) with ⟨fault | _, afterTrailer⟩
    · simp [drawn, trailed] at written
    · simp [drawn, trailed] at written
  · rcases trailed : afterBody.writeAll (Document.trailerLines box) with ⟨fault | _, afterTrailer⟩
    · simp [drawn, trailed] at written
    · simp only [drawn, trailed] at written
      rw [Channel.received_of_flush written, Channel.received_of_writeAll trailed,
        Channel.received_of_writeAll drawn, toUTF8_join_append, ByteArray.append_assoc]

/-- A drawing that has been written well has been received as a whole. -/
theorem received_of_writeDrawing {style : DocumentStyle} {commands : List PathCommand} {box : Box}
    {channel last : Channel δ}
    (written : style.writeDrawing commands box channel = (.ok (), last)) :
    last.received =
      channel.received ++ (String.join (style.lines commands box)).toUTF8 := by
  unfold writeDrawing at written
  rcases headed : channel.writeAll style.header with ⟨fault | _, afterHeader⟩
  · simp [headed] at written
  · simp only [headed] at written
    rw [received_of_writeBody written, Channel.received_of_writeAll headed, ByteArray.append_assoc,
      ← toUTF8_join_append, ← List.append_assoc]
    rfl

/-- A document that is refused beforehand leaves the device alone. -/
theorem render_of_refused {style : DocumentStyle} {grammar : Grammar} {start : τ} {rounds : Int}
    (refused : ¬ (0 ≤ rounds ∧ grammar.IsKnownTo (style.dryTurtle start))) :
    ∃ error, ∀ {δ : Type} [Device δ] (channel : Channel δ),
      style.render grammar start rounds channel = (.error (.render error), channel) := by
  cases checked : style.check grammar rounds with
  | ok _ => exact absurd (check_eq_ok_iff.mp checked) refused
  | error error =>
      refine ⟨error, ?_⟩
      intro δ _ channel
      simp only [render, checked]

/-- Behind a document that has been rendered there is a drawing, and it has been received. -/
theorem exists_drawing_of_render {style : DocumentStyle} {grammar : Grammar} {start : τ}
    {rounds : Int} {channel last : Channel δ} {box : Box}
    (rendered : style.render grammar start rounds channel = (.ok box, last)) :
    ∃ drawn,
      grammar.renderInitiator (style.drawingTurtle start (#[] : Array PathCommand)) rounds =
        .ok drawn ∧
      drawn.box = box ∧
      last.received = channel.received ++
        (String.join (style.lines drawn.turtle.finish.toList box)).toUTF8 := by
  by_cases valid : 0 ≤ rounds ∧ grammar.IsKnownTo (style.dryTurtle start)
  · rcases style.exists_drawing grammar start valid.1 valid.2 with
      ⟨drawn, _, drawnRendered, _, _, renders⟩
    rcases written : style.writeDrawing drawn.turtle.finish.toList drawn.box channel with
      ⟨fault | _, afterDrawing⟩
    · simp [renders, written, report] at rendered
    · simp only [renders, written, report, Prod.mk.injEq, Except.ok.injEq] at rendered
      rcases rendered with ⟨rfl, rfl⟩
      exact ⟨drawn, drawnRendered, rfl, received_of_writeDrawing written⟩
  · rcases render_of_refused valid with ⟨error, refuses⟩
    simp [refuses] at rendered

/--
A document is reported as rendered just if the number of rounds is not negative, each action
name of the grammar has a meaning, and nothing has gone wrong with the device. Then the device
has received the header, a line for each command that the drawing turtle sends if it draws
to an array, and the trailer, and has been flushed. The box reported is the one of the
drawing and of a dry run. A transcript has no influence on all this.
-/
theorem render_ok_wholeDocument (style : DocumentStyle) (grammar : Grammar) (start : τ)
    (rounds : Int) (channel : Channel δ) :
    let run := style.render grammar start rounds channel.recorded
    style.render grammar start rounds channel = (run.1, run.2.unrecorded) ∧
    ((∃ box, run.1 = .ok box) ↔
      0 ≤ rounds ∧
      (∀ symbol ∈ grammar.alphabet.symbols, ∀ name ∈ grammar.action? symbol,
        (style.vocabulary.resolve? name).isSome) ∧
      ∀ event ∈ run.2.device.events, event.fault? = none) ∧
    ∀ box, run.1 = .ok box → ∃ drawn dry,
      grammar.renderInitiator (style.drawingTurtle start (#[] : Array PathCommand)) rounds =
        .ok drawn ∧
      grammar.renderInitiator (style.dryTurtle start) rounds = .ok dry ∧
      box = drawn.box ∧ box = dry.box ∧
      run.2.received = channel.received ++
        (String.join (style.lines drawn.turtle.finish.toList box)).toUTF8 ∧
      run.2.device.events =
        (style.lines drawn.turtle.finish.toList box).map .ofTaken ++ [.flush (.ok ())] := by
  intro run
  by_cases valid : 0 ≤ rounds ∧ grammar.IsKnownTo (style.dryTurtle start)
  · rcases style.exists_course grammar start valid.1 valid.2 channel with
      ⟨drawn, dry, outcome, last, drawnRendered, dryRendered, sameBox, recorded, ran, unrecorded,
        course⟩
    change run = _ at ran
    refine ⟨?_, ?_, ?_⟩
    · rw [ran, unrecorded]
    · rw [ran, ← course.outcome_eq_ok_iff]
      have reported : (∃ box, report drawn.box outcome = .ok box) ↔ outcome = .ok () := by
        rcases outcome with fault | _ <;> simp [report]
      rw [reported]
      exact ⟨fun well => ⟨valid.1, valid.2, well⟩, fun conditions => conditions.2.2⟩
    · intro box ended
      rw [ran] at ended ⊢
      rcases outcome with fault | _
      · simp [report] at ended
      · have same : box = drawn.box := (Except.ok.inj ended).symm
        subst same
        exact ⟨drawn, dry, drawnRendered, dryRendered, rfl, sameBox.symm,
          received_of_writeDrawing recorded, course.events_of_ok⟩
  · rcases render_of_refused valid with ⟨error, refuses⟩
    have ran : run = (.error (.render error), channel.recorded) := refuses channel.recorded
    refine ⟨?_, ?_, ?_⟩
    · rw [refuses channel, ran]
      rfl
    · rw [ran]
      constructor
      · rintro ⟨box, impossible⟩
        simp at impossible
      · rintro ⟨someRounds, known, _⟩
        exact absurd ⟨someRounds, known⟩ valid
    · intro box impossible
      simp [ran] at impossible

def twig : List GrammarEdit := [.setAction '[' "push", .setAction ']' "pop",
  .setAction '+' "turnL", .addRule 'F' "F[+F]F", .setInitiator "F"]

theorem render_ok_wholeDocument_twig :
    let style := ofTitle "twig"
    let grammar := Grammar.ofEdits twig
    ∃ box last drawn dry,
      style.render grammar SilentTurtle.standard 2 (Channel.ofDevice Paper.mk) = (.ok box, last) ∧
      grammar.renderInitiator
        (style.drawingTurtle SilentTurtle.standard (#[] : Array PathCommand)) 2 = .ok drawn ∧
      grammar.renderInitiator (style.dryTurtle SilentTurtle.standard) 2 = .ok dry ∧
      box = drawn.box ∧ box = dry.box ∧
      last.received = (String.join (style.lines drawn.turtle.finish.toList box)).toUTF8 := by
  intro style grammar
  have known : ∀ symbol ∈ grammar.alphabet.symbols, ∀ name ∈ grammar.action? symbol,
      (style.vocabulary.resolve? name).isSome := by decide
  have well : ∀ event ∈ (style.render grammar SilentTurtle.standard 2
      (Channel.ofDevice Paper.mk).recorded).2.device.events, event.fault? = none := by
    decide +kernel
  rcases style.render_ok_wholeDocument grammar SilentTurtle.standard 2 (.ofDevice Paper.mk) with
    ⟨transparent, succeeds, whole⟩
  -- From here on the run is not looked into, so as not to be evaluated.
  generalize style.render grammar SilentTurtle.standard 2 (Channel.ofDevice Paper.mk).recorded = run
    at well transparent succeeds whole
  rcases succeeds.mpr ⟨by decide, known, well⟩ with ⟨box, ended⟩
  rcases whole box ended with
    ⟨drawn, dry, drawnRendered, dryRendered, boxDrawn, boxDry, received, _⟩
  rw [ended] at transparent
  exact ⟨box, run.2.unrecorded, drawn, dry, transparent, drawnRendered, dryRendered, boxDrawn,
    boxDry, received.trans ByteArray.empty_append⟩

end Lindenmayer.DocumentStyle
