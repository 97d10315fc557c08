import Lindenmayer.Document.Composition
import Lindenmayer.Proofs.Document.Writing
import Lindenmayer.Proofs.Turtle.Movement

/-!
# Drawing to a device is drawing first and writing afterwards

A writer that is sent path commands writes their lines up to the first one that is not
taken, and it has no influence on what it is sent. Rendering a document thus comes to
making the drawing without any device and then writing it with
`DocumentStyle.writeDrawing`. What can happen to the device in this is listed once, in
`DocumentStyle.writeDrawing_recorded_cases`; all that is said about faults of the device
follows from the list.
-/

namespace Lindenmayer

namespace DocumentWriter

variable {δ : Type} [Device δ]

theorem emitAll_of_fault (writer : DocumentWriter δ) {fault : Fault}
    (faulty : writer.fault = some fault) (commands : List PathCommand) :
    PathSink.emitAll writer commands = writer := by
  induction commands with
  | nil => rfl
  | cons command rest inductionHypothesis =>
      have unchanged : PathSink.emit writer command = writer := by
        simp only [PathSink.emit, emit, faulty]
      rw [PathSink.emitAll, List.foldl_cons, unchanged]
      exact inductionHypothesis

/-- Commands are written line by line, and the first fault is kept. -/
theorem emitAll_ofChannel (channel : Channel δ) (commands : List PathCommand) :
    PathSink.emitAll (ofChannel channel) commands =
      match channel.writeAll (DocumentStyle.body commands) with
      | (.ok (), last) => ⟨last, none⟩
      | (.error fault, last) => ⟨last, some fault⟩ := by
  induction commands generalizing channel with
  | nil => rfl
  | cons command rest inductionHypothesis =>
      rw [PathSink.emitAll, List.foldl_cons, DocumentStyle.body, List.map_cons, Channel.writeAll]
      rcases written : channel.write (Document.commandLine command) with ⟨fault | _, next⟩
      · have kept : PathSink.emit (ofChannel channel) command = ⟨next, some fault⟩ := by
          simp only [PathSink.emit, emit, ofChannel, written]
        rw [kept]
        exact emitAll_of_fault _ rfl rest
      · have goesOn : PathSink.emit (ofChannel channel) command = ofChannel next := by
          simp only [PathSink.emit, emit, ofChannel, written]
        rw [goesOn]
        exact inductionHypothesis next

end DocumentWriter

namespace DocumentStyle

variable {τ : Type} [Turtle τ] {style : DocumentStyle} {grammar : Grammar} {start : τ}
  {rounds : Int}

theorem check_eq_ok_iff :
    style.check grammar rounds = .ok () ↔
      0 ≤ rounds ∧ grammar.IsKnownTo (style.dryTurtle start) := by
  have sameTable :
      grammar.operationTable { SilentTurtle.standard with vocabulary := style.vocabulary } =
        grammar.operationTable (style.dryTurtle start) :=
    Grammar.operationTable_congr fun _ => rfl
  unfold check
  split
  · rename_i negative
    simp [Int.not_le.mpr negative]
  · rename_i notNegative
    rw [Grammar.checkActions, sameTable]
    constructor
    · intro checked
      cases made : grammar.operationTable (style.dryTurtle start) with
      | error problem => simp [made, Except.map] at checked
      | ok table => exact ⟨Int.not_lt.mp notNegative, Grammar.isKnownTo_of_operationTable made⟩
    · rintro ⟨_, known⟩
      rcases known.exists_operationTable with ⟨table, made⟩
      rw [made]
      rfl

/-- A drawing is written as it is made. -/
theorem renderBody_eq {δ : Type} [Device δ] {channel : Channel δ}
    {written : Rendering (TracingTurtle (DocumentWriter δ)) ChaCha.Stream}
    {commands : List PathCommand}
    (rendered : grammar.renderInitiator
      (style.drawingTurtle start (DocumentWriter.ofChannel channel)) rounds = .ok written)
    (finished : written.turtle.finish =
      PathSink.emitAll (DocumentWriter.ofChannel channel) commands) :
    style.renderBody grammar start rounds (.ofChannel channel) =
      (report written.box (writeBody commands written.box channel).1,
        (writeBody commands written.box channel).2) := by
  rw [DocumentWriter.emitAll_ofChannel] at finished
  simp only [renderBody, rendered, finished, writeBody]
  rcases channel.writeAll (body commands) with ⟨bodyFault | _, afterBody⟩
  · simp only [DocumentWriter.trailer, DocumentWriter.writeLines]
    rcases afterBody.writeAll (Document.trailerLines written.box) with ⟨fault | _, last⟩ <;> rfl
  · simp only [DocumentWriter.trailer, DocumentWriter.writeLines]
    rcases afterBody.writeAll (Document.trailerLines written.box) with ⟨fault | _, afterTrailer⟩
    · rfl
    · simp only [DocumentWriter.finish]
      rcases afterTrailer.flush with ⟨fault | _, last⟩ <;> rfl

/--
Rendering a document is writing what a turtle draws without a device; and a dry run has
the box of the drawing.
-/
theorem exists_drawing (style : DocumentStyle) (grammar : Grammar) (start : τ) {rounds : Int}
    (someRounds : 0 ≤ rounds) (known : grammar.IsKnownTo (style.dryTurtle start)) :
    ∃ drawn dry,
      grammar.renderInitiator (style.drawingTurtle start (#[] : Array PathCommand)) rounds =
        .ok drawn ∧
      grammar.renderInitiator (style.dryTurtle start) rounds = .ok dry ∧ dry.box = drawn.box ∧
      ∀ {δ : Type} [Device δ] (channel : Channel δ),
        style.render grammar start rounds channel =
          let written := style.writeDrawing drawn.turtle.finish.toList drawn.box channel
          (report drawn.box written.1, written.2) := by
  rcases grammar.exists_operations known someRounds grammar.initiator with ⟨operations, performed⟩
  rcases performed (style.drawingTurtle start (#[] : Array PathCommand)) fun _ => rfl with
    ⟨drawn, drawnRendered, drawnTurtle, drawnBox⟩
  rcases performed (style.dryTurtle start) fun _ => rfl with ⟨dry, dryRendered, _, dryBox⟩
  rw [TracingTurtle.followsPen.trail_eq] at drawnBox
  rw [SilentTurtle.followsPen.trail_eq] at dryBox
  refine ⟨drawn, dry, drawnRendered, dryRendered, dryBox.trans drawnBox.symm, ?_⟩
  intro δ _ channel
  -- The drawing is made once more behind the header, with the writer for a sink.
  have checked : style.check grammar rounds = .ok () := check_eq_ok_iff.mpr ⟨someRounds, known⟩
  have headed : (DocumentWriter.ofChannel channel).header style.title style.creator =
      ((channel.writeAll style.header).1, .ofChannel (channel.writeAll style.header).2) := rfl
  simp only [render, checked, headed, writeDrawing]
  rcases channel.writeAll style.header with ⟨fault | _, afterHeader⟩
  · rfl
  · rcases performed (style.drawingTurtle start (DocumentWriter.ofChannel afterHeader)) fun _ => rfl
      with ⟨written, rendered, writtenTurtle, writtenBox⟩
    rw [TracingTurtle.followsPen.trail_eq] at writtenBox
    have sameBox : written.box = drawn.box := writtenBox.trans drawnBox.symm
    have finished : written.turtle.finish =
        PathSink.emitAll (DocumentWriter.ofChannel afterHeader) drawn.turtle.finish.toList := by
      rw [writtenTurtle, drawnTurtle, TracingTurtle.finish_applyAll_eq,
        TracingTurtle.finish_applyAll_eq, PathSink.toList_emitAll]
      rfl
    rw [← sameBox]
    exact renderBody_eq rendered finished

section Courses

variable {δ : Type} [Device δ]

/-- After a header that was taken, writing goes on in one of the courses. -/
theorem writeBody_recorded_cases (commands : List PathCommand) (box : Box)
    (channel : Channel (RecordingDevice δ)) :
    ∃ outcome last events,
      writeBody commands box channel = (outcome, last) ∧
      writeBody commands box channel.unrecorded = (outcome, last.unrecorded) ∧
      last.device.events = channel.device.events ++ events ∧
      ∀ header, Course header (body commands) (Document.trailerLines box)
        (header.map .ofTaken ++ events) outcome := by
  rcases channel.writeAll_recorded_cases (body commands) with
    ⟨afterBody, written, unrecorded, bodyRecorded⟩ |
    ⟨bodyFault, afterBody, bodyEvents, written, unrecorded, bodyRecorded, bodyBreaksOff⟩
  · rcases afterBody.writeAll_recorded_cases (Document.trailerLines box) with
      ⟨afterTrailer, trailed, trailedUnrecorded, recorded⟩ |
      ⟨fault, last, events, trailed, trailedUnrecorded, recorded, breaksOff⟩
    · refine ⟨afterTrailer.flush.1, afterTrailer.flush.2,
        (body commands ++ Document.trailerLines box).map .ofTaken ++ [.flush afterTrailer.flush.1],
        ?_, ?_, ?_, ?_⟩
      · simp only [writeBody, written, trailed]
      · simp only [writeBody, unrecorded, trailedUnrecorded]
        rfl
      · rw [Channel.events_flush, recorded, bodyRecorded]
        simp
      · intro header
        rw [← List.append_assoc, ← List.map_append, ← List.append_assoc]
        rcases afterTrailer.flush.1 with fault | _
        · exact .flushFails fault
        · exact .complete
    · refine ⟨.error fault, last, (body commands).map .ofTaken ++ events, ?_, ?_, ?_, ?_⟩
      · simp only [writeBody, written, trailed]
      · simp only [writeBody, unrecorded, trailedUnrecorded]
      · rw [recorded, bodyRecorded, List.append_assoc]
      · intro header
        rw [← List.append_assoc, ← List.map_append]
        exact .trailerBreaks breaksOff
  · -- The trailer is written all the same.
    rcases afterBody.writeAll_recorded_cases (Document.trailerLines box) with
      ⟨last, trailed, trailedUnrecorded, recorded⟩ |
      ⟨fault, last, events, trailed, trailedUnrecorded, recorded, breaksOff⟩
    · refine ⟨.error bodyFault, last, bodyEvents ++ (Document.trailerLines box).map .ofTaken,
        ?_, ?_, ?_, ?_⟩
      · simp only [writeBody, written, trailed]
      · simp only [writeBody, unrecorded, trailedUnrecorded]
      · rw [recorded, bodyRecorded, List.append_assoc]
      · intro header
        rw [← List.append_assoc]
        exact .bodyBreaks bodyBreaksOff
    · refine ⟨.error fault, last, bodyEvents ++ events, ?_, ?_, ?_, ?_⟩
      · simp only [writeBody, written, trailed]
      · simp only [writeBody, unrecorded, trailedUnrecorded]
      · rw [recorded, bodyRecorded, List.append_assoc]
      · intro header
        rw [← List.append_assoc]
        exact .bodyAndTrailerBreak bodyBreaksOff breaksOff

/-- Whatever the device does, writing takes one of the courses, and a transcript changes nothing. -/
theorem writeDrawing_recorded_cases (style : DocumentStyle) (commands : List PathCommand)
    (box : Box) (channel : Channel δ) :
    ∃ outcome last,
      style.writeDrawing commands box channel.recorded = (outcome, last) ∧
      style.writeDrawing commands box channel = (outcome, last.unrecorded) ∧
      Course style.header (body commands) (Document.trailerLines box) last.device.events
        outcome := by
  rcases channel.recorded.writeAll_recorded_cases style.header with
    ⟨afterHeader, headed, unrecorded, headerRecorded⟩ |
    ⟨fault, last, events, headed, unrecorded, recorded, breaksOff⟩
  · rcases writeBody_recorded_cases commands box afterHeader with
      ⟨outcome, last, events, written, bodyUnrecorded, recorded, course⟩
    refine ⟨outcome, last, ?_, ?_, ?_⟩
    · simp only [writeDrawing, headed, written]
    · change channel.writeAll style.header = _ at unrecorded
      simp only [writeDrawing, unrecorded, bodyUnrecorded]
    · rw [recorded, headerRecorded]
      exact course style.header
  · refine ⟨.error fault, last, ?_, ?_, ?_⟩
    · simp only [writeDrawing, headed]
    · change channel.writeAll style.header = _ at unrecorded
      simp only [writeDrawing, unrecorded]
    · rw [recorded]
      exact .headerBreaks breaksOff

/-- A document that passes the checks is drawn, and writing it takes one of the courses. -/
theorem exists_course (style : DocumentStyle) (grammar : Grammar) (start : τ) {rounds : Int}
    (someRounds : 0 ≤ rounds) (known : grammar.IsKnownTo (style.dryTurtle start))
    (channel : Channel δ) :
    ∃ drawn dry outcome last,
      grammar.renderInitiator (style.drawingTurtle start (#[] : Array PathCommand)) rounds =
        .ok drawn ∧
      grammar.renderInitiator (style.dryTurtle start) rounds = .ok dry ∧ dry.box = drawn.box ∧
      style.writeDrawing drawn.turtle.finish.toList drawn.box channel.recorded = (outcome, last) ∧
      style.render grammar start rounds channel.recorded = (report drawn.box outcome, last) ∧
      style.render grammar start rounds channel = (report drawn.box outcome, last.unrecorded) ∧
      Course style.header (body drawn.turtle.finish.toList) (Document.trailerLines drawn.box)
        last.device.events outcome := by
  rcases style.exists_drawing grammar start someRounds known with
    ⟨drawn, dry, drawnRendered, dryRendered, sameBox, renders⟩
  rcases style.writeDrawing_recorded_cases drawn.turtle.finish.toList drawn.box channel with
    ⟨outcome, last, recorded, unrecorded, course⟩
  refine ⟨drawn, dry, outcome, last, drawnRendered, dryRendered, sameBox, recorded, ?_, ?_, course⟩
  · simp only [renders, recorded]
  · simp only [renders, unrecorded]

end Courses

end DocumentStyle

end Lindenmayer
