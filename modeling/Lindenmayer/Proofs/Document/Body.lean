import Lindenmayer.Document.Body
import Lindenmayer.Proofs.Decimal.Accuracy
import Lindenmayer.Proofs.Document.RoundTrip

/-!
# What the body tells

The lines of path commands are found again in the bytes that have been written, whatever the
coordinates are, and so are the words on each line, since no number is written with a blank
or a line feed in it. Number and places of the words tell the kinds of commands apart, the
two that end in the same word included. Hence two lists of commands are written alike just if
their commands look alike one by one, and nothing else can be told from the body.

If the coordinates are finite, their texts are read as numbers again, which differ from the
coordinates by what rounding to hundredths has changed.
-/

namespace Lindenmayer

namespace Document

/-! ## Lines that look alike -/

theorem commandWords_eq_iff {command other : PathCommand} :
    commandWords command = commandWords other ↔ command.LooksLike other := by
  constructor
  · intro sameWords
    constructor <;> cases command <;> cases other <;>
      simp_all [commandWords, PathCommand.kind, PathCommand.coordinateTexts, PathCommand.points]
  · rintro ⟨sameKind, sameTexts⟩
    cases command <;> cases other <;>
      simp_all [commandWords, PathCommand.kind, PathCommand.coordinateTexts, PathCommand.points]

theorem commandText_eq_iff {command other : PathCommand} :
    commandText command = commandText other ↔ command.LooksLike other := by
  rw [← commandWords_eq_iff]
  constructor
  · intro sameText
    rw [← words_commandText, sameText, words_commandText]
  · intro sameWords
    rw [← String.toList_inj, toList_commandText, toList_commandText, sameWords]

theorem map_commandText_eq_iff {commands others : List PathCommand} :
    commands.map commandText = others.map commandText ↔
      List.Forall₂ PathCommand.LooksLike commands others := by
  rw [← List.forall₂_eq_eq_eq, List.forall₂_map_left_iff, List.forall₂_map_right_iff]
  simp only [commandText_eq_iff]

theorem body_eq_map_line (commands : List PathCommand) :
    DocumentStyle.body commands = (commands.map commandText).map line := by
  simp [DocumentStyle.body, commandLine]

theorem readLines?_body (commands : List PathCommand) :
    readLines? (String.join (DocumentStyle.body commands)) = some (commands.map commandText) := by
  rw [body_eq_map_line]
  apply readLines?_join
  intro text textMem
  rcases List.mem_map.mp textMem with ⟨command, _, rfl⟩
  exact not_mem_commandText (.inl rfl) command

/-- Two bodies are the same text just if their commands look alike. -/
theorem join_body_eq_iff {commands others : List PathCommand} :
    String.join (DocumentStyle.body commands) = String.join (DocumentStyle.body others) ↔
      List.Forall₂ PathCommand.LooksLike commands others := by
  rw [← map_commandText_eq_iff]
  constructor
  · intro sameBody
    apply Option.some.inj
    rw [← readLines?_body, sameBody, readLines?_body]
  · intro sameTexts
    rw [body_eq_map_line, sameTexts, ← body_eq_map_line]

/-! ## Commands read from their lines -/

/-- Whether a point is printed at most half a hundredth away, on each axis. -/
def PrintedPoint.IsNear (printed : PrintedPoint) (point : Point) : Prop :=
  |(printed.x : ℚ) / 100 - (Binary64.ofFloat point.x).value| ≤ 1 / 200 ∧
    |(printed.y : ℚ) / 100 - (Binary64.ofFloat point.y).value| ≤ 1 / 200

/-- Whether a command is printed as what it is, with its points nearby. -/
structure PrintedCommand.IsNear (printed : PrintedCommand) (command : PathCommand) : Prop where
  kind : printed.kind = command.kind
  points : List.Forall₂ PrintedPoint.IsNear printed.points command.points

theorem PrintedPoint.isNear_ofPoint {point : Point} (finite : point.isFinite) :
    (PrintedPoint.ofPoint point).IsNear point := by
  rw [Point.isFinite, Bool.and_eq_true] at finite
  exact ⟨Decimal.abs_hundredthsOf_div_sub_value_le finite.1,
    Decimal.abs_hundredthsOf_div_sub_value_le finite.2⟩

theorem PrintedCommand.isNear_ofCommand {command : PathCommand}
    (finite : ∀ point ∈ command.points, point.isFinite) :
    (PrintedCommand.ofCommand command).IsNear command where
  kind := by cases command <;> rfl
  points := by
    cases command with
    | stroke => exact .nil
    | _ => exact .cons (PrintedPoint.isNear_ofPoint (finite _ (List.mem_singleton_self _))) .nil

theorem mapM_readCommand?_commandText {commands : List PathCommand}
    (finite : ∀ command ∈ commands, ∀ point ∈ command.points, point.isFinite) :
    (commands.map commandText).mapM readCommand? = some (commands.map .ofCommand) := by
  induction commands with
  | nil => rfl
  | cons command rest inductionHypothesis =>
      rcases List.forall_mem_cons.mp finite with ⟨commandFinite, restFinite⟩
      rw [List.map_cons, List.mapM_cons, readCommand?_commandText commandFinite,
        inductionHypothesis restFinite]
      rfl

/-- Commands with finite coordinates are read from the bytes of their lines. -/
theorem readCommands?_body {commands : List PathCommand}
    (finite : ∀ command ∈ commands, ∀ point ∈ command.points, point.isFinite) :
    readCommands? (String.join (DocumentStyle.body commands)).toUTF8 =
      some (commands.map .ofCommand) := by
  simp only [readCommands?, fromUTF8?_toUTF8, Option.bind_eq_bind, Option.bind_some, readLines?_body,
    mapM_readCommand?_commandText finite]

end Document

/-! ## Devices that never fail -/

namespace DocumentWriter

open Document

variable {δ : Type} [Device δ] {sound : δ → Prop}

/-- A device that never fails receives the lines of all commands sent to a writer. -/
theorem received_emitAll_of_neverFails (neverFails : Device.NeverFails sound)
    {device : δ} (isSound : sound device) (commands : List PathCommand) :
    (PathSink.emitAll (ofChannel (.ofDevice device)) commands).channel.received =
      (String.join (DocumentStyle.body commands)).toUTF8 := by
  have allTaken : ∃ last, (Channel.ofDevice device).writeAll (DocumentStyle.body commands) =
      (.ok (), last) ∧ sound last.device := Channel.exists_writeAll_ok neverFails isSound _
  rcases allTaken with ⟨last, written, _⟩
  rw [emitAll_ofChannel, written]
  exact (Channel.received_of_writeAll written).trans ByteArray.empty_append

/--
The bytes of a body tell the commands up to two decimals. Two lists of commands sent to writers on
devices that never fail make the same bytes just if their commands look alike one by one: as many
of them, of the same kinds in the same order, and with the same texts for coordinates, be they
zeros with a sign, infinities or NaN. And if all coordinates are finite, reading the bytes line by
line gives commands of the same kinds with coordinates at most half a hundredth away.
-/
theorem emitAll_bytes_eq_iff_looksLike (neverFails : Device.NeverFails sound)
    (device otherDevice : δ) (isSound : sound device) (otherIsSound : sound otherDevice)
    (commands others : List PathCommand) :
    let bytes := (PathSink.emitAll (ofChannel (.ofDevice device)) commands).channel.received
    let otherBytes := (PathSink.emitAll (ofChannel (.ofDevice otherDevice)) others).channel.received
    (bytes = otherBytes ↔ List.Forall₂ PathCommand.LooksLike commands others) ∧
    ((∀ command ∈ commands, ∀ point ∈ command.points, point.isFinite) →
      ∃ printed, readCommands? bytes = some printed ∧
        List.Forall₂ PrintedCommand.IsNear printed commands) := by
  intro bytes otherBytes
  have received := received_emitAll_of_neverFails neverFails isSound commands
  have otherReceived := received_emitAll_of_neverFails neverFails otherIsSound others
  constructor
  · rw [← join_body_eq_iff, ← String.toByteArray_inj]
    exact Eq.congr received otherReceived
  · intro finite
    refine ⟨commands.map .ofCommand, ?_, ?_⟩
    · rw [← readCommands?_body finite]
      exact congrArg readCommands? received
    · rw [List.forall₂_map_left_iff, List.forall₂_same]
      exact fun command commandMem => PrintedCommand.isNear_ofCommand (finite command commandMem)

/-- A path with a very small, a very large and a tied coordinate. -/
def outline : List PathCommand :=
  [.newPath ⟨-0.001, 1e22⟩, .lineTo ⟨0.125, -2.5⟩, .moveTo ⟨7.0, 7.0⟩, .stroke]

/-- The same path, moved by less than can be seen. -/
def movedOutline : List PathCommand :=
  [.newPath ⟨-0.0, 1e22⟩, .lineTo ⟨0.12, -2.504⟩, .moveTo ⟨6.996, 7.0⟩, .stroke]

theorem emitAll_bytes_eq_iff_looksLike_outline :
    let writer : DocumentWriter Paper := ofChannel (.ofDevice Paper.mk)
    let bytes := (PathSink.emitAll writer outline).channel.received
    Device.NeverFails (fun _ : Paper => True) ∧
      bytes = (PathSink.emitAll writer movedOutline).channel.received ∧
      (∀ command ∈ outline, ∀ point ∈ command.points, point.isFinite) ∧
      ∃ printed, readCommands? bytes = some printed ∧
        List.Forall₂ PrintedCommand.IsNear printed outline := by
  intro writer bytes
  have finite : ∀ command ∈ outline, ∀ point ∈ command.points, point.isFinite := by
    decide +kernel
  have alike : List.Forall₂ PathCommand.LooksLike outline movedOutline :=
    map_commandText_eq_iff.mp (by decide +kernel)
  rcases emitAll_bytes_eq_iff_looksLike DocumentStyle.Paper.neverFails Paper.mk Paper.mk trivial
    trivial outline movedOutline with ⟨sameBytes, read⟩
  exact ⟨DocumentStyle.Paper.neverFails, sameBytes.mpr alike, finite, read finite⟩

end DocumentWriter

end Lindenmayer
