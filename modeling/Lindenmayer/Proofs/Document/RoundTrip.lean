import Mathlib.Data.List.Infix
import Lindenmayer.Document.Contents
import Lindenmayer.Proofs.Document.DeclaredBox

/-!
# Documents are read back

A document on a device that never fails is the text of its lines. Nothing in it ends a line
early if title and creator do not, so the lines are found again; and no line of a command can
be taken for one of the trailer, nor the other way round. Hence a reader gets back title,
creator, commands and box.

Title and creator are written as they are. A line feed in one of them makes lines that nobody
can tell from those of the header, and so two documents can be the same text.
-/

namespace Lindenmayer

namespace Document

/-! ## Lines -/

theorem toList_join_lines (texts : List String) :
    (String.join (texts.map line)).toList =
      ['\n'].intercalate (texts.map String.toList ++ [[]]) := by
  induction texts with
  | nil => rfl
  | cons text texts inductionHypothesis =>
      have some : texts.map String.toList ++ [[]] ≠ [] := by simp
      rw [List.map_cons, List.map_cons, List.cons_append, String.join_cons, String.toList_append,
        inductionHypothesis, List.intercalate_cons_of_ne_nil some, line, String.toList_append]
      rfl

/-- Lines are found again if none of them is ended early. -/
theorem readLines?_join {texts : List String} (oneLine : ∀ text ∈ texts, '\n' ∉ text.toList) :
    readLines? (String.join (texts.map line)) = some texts := by
  have split : (String.join (texts.map line)).toList.splitOn '\n' =
      texts.map String.toList ++ [[]] := by
    rw [toList_join_lines]
    apply List.splitOn_intercalate
    · intro chars charsMem
      rcases List.mem_append.mp charsMem with isText | isLast
      · rcases List.mem_map.mp isText with ⟨text, textMem, rfl⟩
        exact oneLine text textMem
      · rw [List.mem_singleton.mp isLast]
        exact List.not_mem_nil
    · simp
  simp only [readLines?, split, List.getLast?_concat, if_true, List.dropLast_concat, List.map_map]
  simp

theorem between?_append (front inside back : String) :
    between? front back (front ++ inside ++ back) = some inside := by
  have frontFound : front.toList.isPrefixOf? (front ++ inside ++ back).toList =
      some (inside.toList ++ back.toList) :=
    List.isPrefixOf?_eq_some_iff_append_eq.mpr (by simp)
  have backFound : back.toList.isSuffixOf? (inside.toList ++ back.toList) =
      some inside.toList :=
    List.isSuffixOf?_eq_some_iff_append_eq.mpr rfl
  simp only [between?, frontFound, Option.bind_eq_bind, Option.bind_some, backFound,
    String.ofList_toList]
  rfl

/-! ## Header, body and trailer -/

theorem readHeader?_headerTexts (title creator : String) (rest : List String) :
    readHeader? (headerTexts title creator ++ rest) = some (title, creator, rest) := by
  simp [headerTexts, readHeader?, between?_append]

theorem readBody?_commandTexts {commands : List PathCommand}
    (finite : ∀ command ∈ commands, ∀ point ∈ command.points, point.isFinite) (box : Box) :
    readBody? (commands.map commandText ++ trailerTexts box) =
      some (commands.map .ofCommand, .ofBox box) := by
  induction commands with
  | nil =>
      change (readBox? ("%%BoundingBox: " ++ boxText box)).map _ = _
      rw [readBox?_boxText]
      rfl
  | cons command commands inductionHypothesis =>
      rcases List.forall_mem_cons.mp finite with ⟨commandFinite, restFinite⟩
      have read := readCommand?_commandText commandFinite
      have further := inductionHypothesis restFinite
      rw [List.map_cons, List.cons_append, readBody?, read, further]
      · rfl
      · -- What follows a command is longer than what follows the first line of the trailer.
        rintro _ _ tooShort
        have sameLength := congrArg List.length tooShort
        simp [trailerTexts] at sameLength

theorem not_mem_commandText {char : Char} (foreign : char = '\n' ∨ char = '%')
    (command : PathCommand) : char ∉ (commandText command).toList := by
  have notInNumber (number : Float) : char ∉ (Decimal.fixed number).toList := by
    rcases foreign with rfl | rfl <;> exact Decimal.not_mem_fixed rfl (by decide) number
  cases command with
  | stroke => rcases foreign with rfl | rfl <;> decide
  | _ => rcases foreign with rfl | rfl <;> simp [commandText, pointText, notInNumber]

theorem lineFeed_not_mem_boxText (box : Box) : '\n' ∉ (boxText box).toList := by
  have notInSide (side : Int) : '\n' ∉ side.repr.toList :=
    Decimal.not_mem_toString rfl (by decide) side
  simp [boxText, notInSide]

theorem DeclaresBox.third {text : String} (declares : DeclaresBox text) :
    text.toList[2]? = some 'B' := by
  rcases declares with ⟨rest, split⟩
  rw [← split]
  rfl

theorem not_declaresBox_commandText (command : PathCommand) :
    ¬DeclaresBox (commandText command) := by
  rintro ⟨rest, split⟩
  have percentMem : '%' ∈ (commandText command).toList := by
    rw [← split]
    exact List.mem_append_left _ (by decide)
  exact not_mem_commandText (.inr rfl) command percentMem

/-! ## The whole text -/

end Document

namespace DocumentStyle

open Document

variable {style : DocumentStyle} {commands : List PathCommand} {box : Box}

theorem lines_eq (style : DocumentStyle) (commands : List PathCommand) (box : Box) :
    style.lines commands box = (style.texts commands box).map line := by
  simp [lines, texts, header, headerLines, headerTexts, body, commandLine, trailerLines,
    trailerTexts]

theorem lineFeed_not_mem_texts (title : '\n' ∉ style.title.toList)
    (creator : '\n' ∉ style.creator.toList) :
    ∀ text ∈ style.texts commands box, '\n' ∉ text.toList := by
  intro text textMem
  simp only [texts, List.mem_append] at textMem
  rcases textMem with (isHeader | isCommand) | isTrailer
  · simp only [headerTexts, List.mem_cons, List.not_mem_nil, or_false] at isHeader
    rcases isHeader with rfl | rfl | rfl | rfl | rfl <;> simp [title, creator]
  · rcases List.mem_map.mp isCommand with ⟨command, _, rfl⟩
    exact not_mem_commandText (.inl rfl) command
  · simp only [trailerTexts, List.mem_cons, List.not_mem_nil, or_false] at isTrailer
    rcases isTrailer with rfl | rfl | rfl <;> simp [lineFeed_not_mem_boxText]

theorem readDocument?_texts
    (oneLine : ∀ text ∈ style.texts commands box, '\n' ∉ text.toList)
    (finite : ∀ command ∈ commands, ∀ point ∈ command.points, point.isFinite) :
    readDocument? (String.join ((style.texts commands box).map line)) =
      some ⟨style.title, style.creator, commands.map .ofCommand, .ofBox box⟩ := by
  have lines : readLines? (String.join ((style.texts commands box).map line)) =
      some (headerTexts style.title style.creator ++
        (commands.map commandText ++ trailerTexts box)) := by
    rw [readLines?_join oneLine, texts, List.append_assoc]
  simp only [readDocument?, lines, Option.bind_eq_bind, Option.bind_some, readHeader?_headerTexts,
    readBody?_commandTexts finite]
  rfl

/-- Only two lines say anything of the box, and the one in the header puts it off. -/
theorem declaresBox_texts {index : Nat} {text : String}
    (found : (style.texts commands box)[index]? = some text) (declares : DeclaresBox text) :
    (index = 3 ∧ text = "%%BoundingBox: (atend)") ∨
      (index = commands.length + 6 ∧ text = "%%BoundingBox: " ++ boxText box) := by
  have third := declares.third
  rw [texts, List.append_assoc] at found
  rcases index with _ | _ | _ | _ | _ | index
  · cases found
    simp at third
  · cases found
    simp at third
  · cases found
    simp at third
  · cases found
    exact .inl ⟨rfl, rfl⟩
  · cases found
    simp at third
  · change (commands.map commandText ++ trailerTexts box)[index]? = some text at found
    by_cases within : index < (commands.map commandText).length
    · rw [List.getElem?_append_left within] at found
      rcases List.mem_map.mp (List.mem_of_getElem? found) with ⟨command, _, rfl⟩
      exact absurd declares (not_declaresBox_commandText command)
    · rw [List.getElem?_append_right (Nat.le_of_not_lt within), List.length_map] at found
      rw [List.length_map] at within
      rcases place : index - commands.length with _ | _ | _ | beyond
      · simp [place, trailerTexts] at found
        simp [← found] at third
      · simp [place, trailerTexts] at found
        exact .inr ⟨by omega, found.symm⟩
      · simp [place, trailerTexts] at found
        simp [← found] at third
      · simp [place, trailerTexts] at found

end DocumentStyle

/-! ## Devices that never fail -/

section NeverFails

variable {δ : Type} [Device δ] {sound : δ → Prop} (neverFails : Device.NeverFails sound)

include neverFails

theorem Channel.exists_writeAll_ok {channel : Channel δ} (isSound : sound channel.device)
    (texts : List String) :
    ∃ last, channel.writeAll texts = (.ok (), last) ∧ sound last.device := by
  induction texts generalizing channel with
  | nil => exact ⟨channel, rfl, isSound⟩
  | cons text texts inductionHypothesis =>
      rcases neverFails.receive channel.device text.toUTF8 isSound with ⟨device, taken, stillSound⟩
      rcases @inductionHypothesis ⟨device, channel.received ++ text.toUTF8⟩ stillSound
        with ⟨last, written, lastSound⟩
      exact ⟨last, by rw [writeAll, write_of_taken taken]; exact written, lastSound⟩

theorem DocumentStyle.exists_writeDrawing_ok (style : DocumentStyle) (commands : List PathCommand)
    (box : Box) {channel : Channel δ} (isSound : sound channel.device) :
    ∃ last, style.writeDrawing commands box channel = (.ok (), last) := by
  rcases Channel.exists_writeAll_ok neverFails isSound style.header with
    ⟨afterHeader, headed, headerSound⟩
  rcases Channel.exists_writeAll_ok neverFails headerSound (body commands) with
    ⟨afterBody, drawn, bodySound⟩
  rcases Channel.exists_writeAll_ok neverFails bodySound (Document.trailerLines box) with
    ⟨afterTrailer, trailed, trailerSound⟩
  have flushed := neverFails.flush afterTrailer.device trailerSound
  refine ⟨afterTrailer.flush.2, ?_⟩
  simp only [writeDrawing, headed, writeBody, drawn, trailed]
  exact Prod.ext flushed rfl

end NeverFails

namespace DocumentStyle

open Document

variable {τ δ : Type} [Turtle τ] [Device δ]

/--
On a device that never fails a document with one-line title and creator is rendered, and the
text received is read back: five lines of header with title and creator, the commands with their
coordinates in hundredths, and three lines of trailer with the box, if all coordinates are
finite. Besides the trailer only the header mentions the box, without saying what it is.
-/
theorem render_read_back (style : DocumentStyle) (grammar : Grammar) (start : τ) {rounds : Int}
    (someRounds : 0 ≤ rounds)
    (known : ∀ symbol ∈ grammar.alphabet.symbols, ∀ name ∈ grammar.action? symbol,
      (style.vocabulary.resolve? name).isSome)
    (title : '\n' ∉ style.title.toList) (creator : '\n' ∉ style.creator.toList)
    {sound : δ → Prop} (neverFails : Device.NeverFails sound) (channel : Channel δ)
    (isSound : sound channel.device) :
    ∃ drawn last text,
      grammar.renderInitiator (style.drawingTurtle start (#[] : Array PathCommand)) rounds =
        .ok drawn ∧
      style.render grammar start rounds channel = (.ok drawn.box, last) ∧
      last.received = channel.received ++ text.toUTF8 ∧
      let commands := drawn.turtle.finish.toList
      ((∀ command ∈ commands, ∀ point ∈ command.points, point.isFinite) →
        readLines? text = some (style.texts commands drawn.box) ∧
        readDocument? text =
          some ⟨style.title, style.creator, commands.map .ofCommand, .ofBox drawn.box⟩ ∧
        ∀ index line, (style.texts commands drawn.box)[index]? = some line → DeclaresBox line →
          (index = 3 ∧ line = "%%BoundingBox: (atend)") ∨
            (index = commands.length + 6 ∧ readBox? line = some (.ofBox drawn.box))) := by
  rcases style.exists_drawing grammar start someRounds known with
    ⟨drawn, _, drawnRendered, _, _, renders⟩
  rcases style.exists_writeDrawing_ok neverFails drawn.turtle.finish.toList drawn.box isSound with
    ⟨last, written⟩
  refine ⟨drawn, last, String.join (style.lines drawn.turtle.finish.toList drawn.box),
    drawnRendered, ?_, received_of_writeDrawing written, ?_⟩
  · simp only [renders, written, report]
  · intro commands finite
    have oneLine : ∀ text ∈ style.texts commands drawn.box, '\n' ∉ text.toList :=
      lineFeed_not_mem_texts title creator
    rw [lines_eq]
    refine ⟨readLines?_join oneLine, readDocument?_texts oneLine finite, ?_⟩
    intro index line found declares
    rcases declaresBox_texts found declares with putOff | ⟨isLast, rfl⟩
    · exact .inl putOff
    · exact .inr ⟨isLast, readBox?_boxText drawn.box⟩

theorem Paper.neverFails : Device.NeverFails fun _ : Paper => True where
  receive paper _ _ := ⟨paper, rfl, trivial⟩
  flush _ _ := rfl

/-- A title that looks like the end of a line and more, without being it. -/
def oneLineTitle : DocumentStyle := ofTitle "fern) %%BoundingBox: 0 0 9 9 ("

theorem render_read_back_oneLineTitle :
    let grammar := Grammar.ofEdits nestedBrackets
    ∃ drawn last text,
      grammar.renderInitiator
        (oneLineTitle.drawingTurtle almostOne (#[] : Array PathCommand)) 2 = .ok drawn ∧
      oneLineTitle.render grammar almostOne 2 (Channel.ofDevice Paper.mk) = (.ok drawn.box, last) ∧
      last.received = text.toUTF8 ∧
      (∀ command ∈ drawn.turtle.finish.toList, ∀ point ∈ command.points, point.isFinite) ∧
      readDocument? text = some ⟨oneLineTitle.title, oneLineTitle.creator,
        drawn.turtle.finish.toList.map .ofCommand, .ofBox drawn.box⟩ := by
  intro grammar
  have known : ∀ symbol ∈ grammar.alphabet.symbols, ∀ name ∈ grammar.action? symbol,
      (oneLineTitle.vocabulary.resolve? name).isSome := by decide
  have allFinite : ∀ drawn ∈ (grammar.renderInitiator
        (oneLineTitle.drawingTurtle almostOne (#[] : Array PathCommand)) 2).toOption,
      ∀ command ∈ drawn.turtle.finish.toList, ∀ point ∈ command.points, point.isFinite := by
    decide +kernel
  rcases oneLineTitle.render_read_back grammar almostOne (by decide : (0 : Int) ≤ 2) known
    (by decide) (by decide) Paper.neverFails (.ofDevice Paper.mk) trivial with
    ⟨drawn, last, text, drawnRendered, rendered, received, readBack⟩
  rw [drawnRendered] at allFinite
  have finite := allFinite drawn rfl
  exact ⟨drawn, last, text, drawnRendered, rendered, received.trans ByteArray.empty_append, finite,
    (readBack finite).2.1⟩

/-! ## Titles of several lines -/

/-- A title of several lines. -/
def forgedTitle : DocumentStyle :=
  ofTitle "fern)\n%%Creator: (a)\n%%BoundingBox: 0 0 9 9\n%%Creator: (b"

/-- A title of one line, and a creator that goes on as the other title does. -/
def forgedCreator : DocumentStyle where
  title := "fern"
  creator := "a)\n%%BoundingBox: 0 0 9 9\n%%Creator: (b)\n%%Creator: (lsystem-turtle"
  vocabulary := .standard

def forgedLines : List String := [
  "%!PS-Adobe-3.0 EPSF-3.0",
  "%%Title: (fern)",
  "%%Creator: (a)",
  "%%BoundingBox: 0 0 9 9",
  "%%Creator: (b)",
  "%%Creator: (lsystem-turtle)",
  "%%BoundingBox: (atend)",
  "%%EndComments",
  "-0.38 1.00 moveto",
  "%%Trailer",
  "%%BoundingBox: -1 0 0 1",
  "%%EOF"
]

/-- Two documents with different titles are the same text, and there is a box in its header. -/
theorem render_forgedTitle_ambiguous :
    let grammar := Grammar.ofEdits nestedBrackets
    let text := String.join (forgedLines.map line)
    let render (style : DocumentStyle) :=
      style.render grammar almostOne 0 (Channel.ofDevice Paper.mk)
    (render forgedTitle).1.isOk ∧ (render forgedTitle).2.received = text.toUTF8 ∧
      (render forgedCreator).1.isOk ∧ (render forgedCreator).2.received = text.toUTF8 ∧
      forgedTitle.title ≠ forgedCreator.title ∧ readDocument? text = none ∧
      readLines? text = some forgedLines ∧ forgedLines[3]? = some "%%BoundingBox: 0 0 9 9" ∧
      readBox? "%%BoundingBox: 0 0 9 9" = some ⟨0, 0, 9, 9⟩ := by
  intro grammar text render
  have lines : readLines? text = some forgedLines := readLines?_join (by decide)
  have received : (render forgedTitle).2.received = text.toUTF8 :=
    ByteArray.ext (Array.ext' (by decide +kernel))
  have sameReceived : (render forgedCreator).2.received = text.toUTF8 :=
    ByteArray.ext (Array.ext' (by decide +kernel))
  refine ⟨by decide +kernel, received, by decide +kernel, sameReceived, by decide, ?_, lines, rfl,
    by decide +kernel⟩
  simp [readDocument?, lines, forgedLines, readHeader?]

end DocumentStyle

end Lindenmayer
