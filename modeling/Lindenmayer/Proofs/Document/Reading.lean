import Lindenmayer.Document.Reading
import Lindenmayer.Proofs.Decimal.Reading

/-!
# Reading back a document

Commands with finite coordinates and bounding boxes are read from their lines again, as
they have been rounded.
-/

namespace Lindenmayer.Document

/-- Parts without blanks are told apart when they have been joined by blanks. -/
theorem words_of_eq_intercalate {text : String} {parts : List String} (some : parts ≠ [])
    (joined : text.toList = [' '].intercalate (parts.map String.toList))
    (blankless : ∀ part ∈ parts, ' ' ∉ part.toList) : words text = parts := by
  have split : text.toList.splitOn ' ' = parts.map String.toList := by
    rw [joined]
    apply List.splitOn_intercalate
    · intro chars charsMem
      rcases List.mem_map.mp charsMem with ⟨part, partMem, rfl⟩
      exact blankless part partMem
    · simpa using some
  rw [words, split, List.map_map]
  simp

section Commands

/-- The words on the line of a command. -/
def commandWords : PathCommand → List String
  | .newPath point => ["newpath", Decimal.fixed point.x, Decimal.fixed point.y, "moveto"]
  | .lineTo point => [Decimal.fixed point.x, Decimal.fixed point.y, "lineto"]
  | .moveTo point => [Decimal.fixed point.x, Decimal.fixed point.y, "moveto"]
  | .stroke => ["stroke"]

/-- The line of a command is made of its words. -/
theorem toList_commandText (command : PathCommand) :
    (commandText command).toList = [' '].intercalate ((commandWords command).map String.toList) := by
  cases command with
  | stroke => rfl
  | _ => simp [commandText, pointText, commandWords]

theorem words_commandText (command : PathCommand) :
    words (commandText command) = commandWords command := by
  apply words_of_eq_intercalate
  · cases command <;> simp [commandWords]
  · exact toList_commandText command
  · cases command with
    | stroke => simp only [commandWords, List.forall_mem_singleton]; decide
    | _ => simp [commandWords, Decimal.blank_not_mem_fixed]

theorem readPoint?_fixed {point : Point} (finite : point.isFinite) :
    readPoint? (Decimal.fixed point.x) (Decimal.fixed point.y) =
      some (PrintedPoint.ofPoint point) := by
  rw [Point.isFinite, Bool.and_eq_true] at finite
  simp [readPoint?, Decimal.readFixed?_fixed finite.1, Decimal.readFixed?_fixed finite.2,
    PrintedPoint.ofPoint]

/-- A command is read from its line, with its coordinates in hundredths. -/
theorem readCommand?_commandText {command : PathCommand}
    (finite : ∀ point ∈ command.points, point.isFinite) :
    readCommand? (commandText command) = some (PrintedCommand.ofCommand command) := by
  rw [readCommand?, words_commandText]
  cases command with
  | stroke => rfl
  | _ =>
      rename_i point
      have pointRead := readPoint?_fixed (finite point (by simp [PathCommand.points]))
      simp [commandWords, pointRead, PrintedCommand.ofCommand]

end Commands

theorem readBox?_boxText (box : Box) :
    readBox? ("%%BoundingBox: " ++ boxText box) = some (PrintedBox.ofBox box) := by
  have split : words ("%%BoundingBox: " ++ boxText box) =
      ["%%BoundingBox:", toString (Decimal.floor box.min.x), toString (Decimal.floor box.min.y),
        toString (Decimal.ceiling box.max.x), toString (Decimal.ceiling box.max.y)] := by
    apply words_of_eq_intercalate
    · simp
    · simp [boxText]
    · simp only [List.mem_cons, List.not_mem_nil, or_false, forall_eq_or_imp, forall_eq,
        Decimal.blank_not_mem_toString]
      decide
  rw [readBox?, split]
  simp only [Decimal.readWhole?_toString]
  rfl

end Lindenmayer.Document
