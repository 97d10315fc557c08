import Lindenmayer.CommandLine.Run
import Lindenmayer.Proofs.Document.Refusal
import Lindenmayer.Proofs.Files.Storing

/-!
# Rejected runs and their output files

A grammar may be loaded and built and still be rejected, for the number of rounds or for an
action name that is not known. This is noticed before anything is written, but after the
output file has been made. So a run that is rejected does nothing but make its output file,
and a file that was there before is lost. On standard output the same run leaves no trace.
-/

namespace Lindenmayer.CommandLine

namespace Request

/-- Whether a grammar and a turtle come of the file that is asked for. -/
def Builds (request : Request) (disk : Disk) (grammar : Grammar) (start : SilentTurtle) : Prop :=
  ∃ bytes file, disk.read request.config = .ok bytes ∧ GrammarFile.ofBytes bytes = .ok file ∧
    file.build = .ok (grammar, start)

/-- The problems for which a request is rejected although its grammar has been built. -/
inductive IsRejectedFor (request : Request) (grammar : Grammar) : RenderError → Prop where
  | rounds (negative : request.rounds < 0) :
      IsRejectedFor request grammar (.negativeRounds request.rounds)
  | name {symbol : Symbol} {name : String} (someRounds : 0 ≤ request.rounds)
      (first : grammar.IsFirstUnknown SilentTurtle.standard symbol name) :
      IsRejectedFor request grammar (.unknownAction symbol.char name)

variable {request : Request} {disk : Disk} {grammar : Grammar} {start : SilentTurtle}
  {problem : RenderError} {path : String}

theorem exists_isRejectedFor
    (bad : request.rounds < 0 ∨ ¬grammar.IsKnownTo SilentTurtle.standard) :
    ∃ problem, request.IsRejectedFor grammar problem := by
  by_cases negative : request.rounds < 0
  · exact ⟨_, .rounds negative⟩
  · have unknown := bad.resolve_left negative
    rcases Grammar.exists_isFirstUnknown_iff.mpr unknown with ⟨symbol, name, first⟩
    exact ⟨_, .name (Int.not_lt.mp negative) first⟩

/-- The seed that is asked for has no part in the check. -/
theorem IsRejectedFor.check_eq_error (rejected : request.IsRejectedFor grammar problem) :
    (DocumentStyle.ofTitle request.config).check (request.grammar grammar) request.rounds =
      .error problem := by
  have sameNames : (request.grammar grammar).checkActions SilentTurtle.standard =
      grammar.checkActions SilentTurtle.standard := by
    unfold Request.grammar
    split <;> rfl
  cases rejected with
  | rounds negative => simp [DocumentStyle.check, negative]
  | name someRounds first =>
      rw [DocumentStyle.check, if_neg (Int.not_lt.mpr someRounds)]
      apply sameNames.trans
      apply Grammar.checkActions_eq_error_iff.mpr
      exact Grammar.operationTable_eq_error_iff.mpr ⟨_, _, rfl, first⟩

theorem IsRejectedFor.document_eq (rejected : request.IsRejectedFor grammar problem) :
    request.document grammar start = (.error (.render problem), .ofDevice {}) :=
  DocumentStyle.render_of_check_eq_error rejected.check_eq_error

theorem run_bind_of_run {α β : Type} {first : StateM Disk α} {next : α → StateM Disk β} {value : α}
    {after : Disk} (ran : first.run disk = (value, after)) :
    (first >>= next).run disk = (next value).run after := by
  rw [StateT.run_bind, ran]
  rfl

theorem run_load_of_read {bytes : ByteArray} (bytesRead : disk.read path = .ok bytes) :
    (GrammarFile.load path : StateM Disk _).run disk = (GrammarFile.ofBytes bytes, disk) := by
  have read : (FileAccess.read path : StateM Disk _).run disk = (.ok bytes, disk) := by
    rw [← bytesRead]
    rfl
  exact run_bind_of_run read

theorem run_renderToFile_of_rejected (rejected : request.IsRejectedFor grammar problem)
    (path : String) :
    (request.renderToFile grammar start path : StateM Disk Outcome).run disk =
      (match (disk.create path).1 with
        | .error fault => (Complaint.ofCreateFault path fault).outcome
        | .ok () => (Complaint.ofDocumentError (.render problem)).outcome,
        (disk.create path).2) := by
  rcases Disk.create_cases disk path with ⟨fault, refused⟩ | ⟨location, found, noDirectory, made⟩
  · have created : (FileAccess.create path : StateM Disk _).run disk = (.error fault, disk) :=
      refused
    rw [renderToFile, run_bind_of_run created, refused]
    rfl
  · have created : (FileAccess.create path : StateM Disk _).run disk =
        (.ok (), disk.emptied location) :=
      made
    have filled : (FileAccess.fill path ByteArray.empty : StateM Disk _).run
        (disk.emptied location) = (.ok (), disk.emptied location) :=
      Disk.fill_empty_emptied found noDirectory
    rw [renderToFile, run_bind_of_run created, made]
    simp only [rejected.document_eq]
    exact run_bind_of_run filled

/-- A request that is rejected makes its output file, if it has one, and does nothing else. -/
theorem run_of_rejected (built : request.Builds disk grammar start)
    (rejected : request.IsRejectedFor grammar problem) :
    (request.run : StateM Disk Outcome).run disk =
      match request.output? with
      | none => ((Complaint.ofDocumentError (.render problem)).outcome, disk)
      | some path =>
        (match (disk.create path).1 with
          | .error fault => (Complaint.ofCreateFault path fault).outcome
          | .ok () => (Complaint.ofDocumentError (.render problem)).outcome,
          (disk.create path).2) := by
  rcases built with ⟨bytes, file, bytesRead, loaded, built⟩
  have fileLoaded : (GrammarFile.load request.config : StateM Disk _).run disk =
      (.ok file, disk) :=
    (run_load_of_read bytesRead).trans (congrArg (·, disk) loaded)
  rw [run, run_bind_of_run fileLoaded]
  simp only [built]
  cases request.output? with
  | none =>
      simp only [renderToOutput, rejected.document_eq]
      rfl
  | some path => exact run_renderToFile_of_rejected rejected path

end Request

theorem run_eq_of_parse {arguments : List String} {request : Request}
    (parsed : parse arguments = some (.render request)) :
    (run arguments : StateM Disk Outcome) = request.run := by
  simp only [run, parsed]

/--
A run that is rejected for the number of rounds or for an action name tells so, unless its
output file cannot be made. It changes nothing but what is at the end of the output path, and
this only by making or emptying a file. So the output is afterwards what it was before only
if the file could not be made, if it was empty already, or if it is a device that keeps
nothing; a file with contents loses them, and where there was none an empty one is left.
-/
theorem run_rejected_keeps_output_iff {disk : Disk} {arguments : List String} {request : Request}
    {path : String} {grammar : Grammar} {start : SilentTurtle}
    (parsed : parse arguments = some (.render request)) (output : request.output? = some path)
    (built : request.Builds disk grammar start)
    (bad : request.rounds < 0 ∨ ¬grammar.IsKnownTo SilentTurtle.standard) :
    ∃ problem, request.IsRejectedFor grammar problem ∧
      ∃ outcome after, (run arguments : StateM Disk Outcome).run disk = (outcome, after) ∧
        (outcome = match (disk.create path).1 with
          | .error fault => (Complaint.ofCreateFault path fault).outcome
          | .ok () => (Complaint.ofDocumentError (.render problem)).outcome) ∧
        (∀ place, disk.place? path ≠ some place → after.entry? place = disk.entry? place) ∧
        (after.entryAt? path = disk.entryAt? path ∨
          after.entryAt? path = some (.file ByteArray.empty)) ∧
        (after.entryAt? path = disk.entryAt? path ↔
          (∃ fault, disk.create path = (.error fault, disk)) ∨
            disk.entryAt? path = some (.file ByteArray.empty) ∨
            ∃ location, disk.place? path = some location ∧ Disk.KeepsNothing location) := by
  rcases Request.exists_isRejectedFor bad with ⟨problem, rejected⟩
  refine ⟨problem, rejected, ?_⟩
  rw [run_eq_of_parse parsed, Request.run_of_rejected built rejected, output]
  exact ⟨_, _, rfl, rfl, fun _ => Disk.entry?_create_of_ne, disk.entryAt?_create_eq_or path,
    Disk.entryAt?_create_eq_iff⟩

/-- A text in its encoding is loaded as what it says. -/
theorem ofBytes_toUTF8_of_ofText {text : String} {file : GrammarFile}
    (holds : GrammarFile.ofText text = .ok file) : GrammarFile.ofBytes text.toUTF8 = .ok file := by
  simp only [GrammarFile.ofBytes, fromUTF8?_toUTF8, holds]

/-- A grammar file with an action that no turtle knows. -/
def singingText : String :=
  "\x7b\"actions\": \x7b\"F\": \"draw\", \"+\": \"sing\"\x7d, \"axiom\": \"F+F\"\x7d"

def singing : Grammar :=
  .ofEdits [.setAction '+' "sing", .setAction 'F' "draw", .setInitiator "F+F"]

/-- A disk with the grammar file and a drawing that has been made before. -/
def earlierDrawing : Disk :=
  (Disk.empty.put "koch.json" singingText.toUTF8).put "out.eps" "%!PS".toUTF8

theorem builds_earlierDrawing {request : Request} (config : request.config = "koch.json") :
    request.Builds earlierDrawing singing .standard := by
  refine ⟨singingText.toUTF8, ⟨.ofList [("F", "draw"), ("+", "sing")], "F+F", .empty, none, none⟩,
    ?_, ofBytes_toUTF8_of_ofText (by rfl), by rfl⟩
  rw [config]
  rfl

theorem run_rejected_keeps_output_iff_earlierDrawing :
    parse ["koch.json", "3", "--seed=7", "-o", "out.eps"] =
        some (.render ⟨"koch.json", 3, some "out.eps", some 7, false⟩) ∧
      Request.Builds ⟨"koch.json", 3, some "out.eps", some 7, false⟩ earlierDrawing singing
        .standard ∧
      ¬singing.IsKnownTo SilentTurtle.standard ∧
      ((run ["koch.json", "3", "--seed=7", "-o", "out.eps"] : StateM Disk Outcome).run
        earlierDrawing).2.entryAt? "out.eps" = some (.file ByteArray.empty) := by
  have parsed : parse ["koch.json", "3", "--seed=7", "-o", "out.eps"] =
      some (.render ⟨"koch.json", 3, some "out.eps", some 7, false⟩) := by
    decide +kernel
  have built : Request.Builds ⟨"koch.json", 3, some "out.eps", some 7, false⟩ earlierDrawing singing
      .standard :=
    builds_earlierDrawing rfl
  have unknown : ¬singing.IsKnownTo SilentTurtle.standard := by decide
  rcases run_rejected_keeps_output_iff parsed rfl built (.inr unknown) with
    ⟨problem, _, outcome, after, ran, _, _, keptOrEmpty, kept⟩
  have drawn : earlierDrawing.entryAt? "out.eps" = some (.file "%!PS".toUTF8) := by rfl
  have changed : after.entryAt? "out.eps" ≠ earlierDrawing.entryAt? "out.eps" := by
    intro same
    rcases kept.mp same with ⟨fault, refused⟩ | wasEmpty | ⟨location, found, lost⟩
    · have made : (earlierDrawing.create "out.eps").1 = .ok () := by rfl
      simp [refused] at made
    · rw [drawn] at wasEmpty
      exact absurd (DiskEntry.file.inj (Option.some.inj wasEmpty)) (by decide)
    · have place : earlierDrawing.place? "out.eps" = some ⟨.above 0, ["out.eps"]⟩ := by rfl
      rw [place] at found
      cases found
      exact absurd lost (by decide)
  rw [ran]
  exact ⟨parsed, built, unknown, keptOrEmpty.resolve_left changed⟩

/-- A rejected run takes away an earlier drawing, and leaves a file where there was none. -/
theorem run_rejected_damages_output :
    (earlierDrawing.entryAt? "out.eps" = some (.file "%!PS".toUTF8) ∧
      ∃ lost, (run ["koch.json", "-1", "-o", "out.eps"] : StateM Disk Outcome).run earlierDrawing =
          ((Complaint.ofDocumentError (.render (.negativeRounds (-1)))).outcome, lost) ∧
        lost.entryAt? "out.eps" = some (.file ByteArray.empty)) ∧
    (earlierDrawing.entryAt? "new.eps" = none ∧
      ∃ left, (run ["koch.json", "3", "-o", "new.eps"] : StateM Disk Outcome).run earlierDrawing =
          ((Complaint.ofDocumentError (.render (.unknownAction '+' "sing"))).outcome, left) ∧
        left.entryAt? "new.eps" = some (.file ByteArray.empty)) := by
  refine ⟨⟨by rfl, (earlierDrawing.create "out.eps").2, ?_, by rfl⟩,
    ⟨by rfl, (earlierDrawing.create "new.eps").2, ?_, by rfl⟩⟩
  · have parsed : parse ["koch.json", "-1", "-o", "out.eps"] =
        some (.render ⟨"koch.json", -1, some "out.eps", none, false⟩) := by
      decide +kernel
    rw [run_eq_of_parse parsed,
      Request.run_of_rejected (builds_earlierDrawing rfl) (.rounds (by decide))]
    rfl
  · have parsed : parse ["koch.json", "3", "-o", "new.eps"] =
        some (.render ⟨"koch.json", 3, some "new.eps", none, false⟩) := by
      decide +kernel
    have first : singing.IsFirstUnknown SilentTurtle.standard ⟨0, '+'⟩ "sing" :=
      ⟨by decide, by decide, [], [⟨1, 'F'⟩], by decide, by decide⟩
    rw [run_eq_of_parse parsed,
      Request.run_of_rejected (builds_earlierDrawing rfl) (.name (by decide) first)]
    rfl

end Lindenmayer.CommandLine
