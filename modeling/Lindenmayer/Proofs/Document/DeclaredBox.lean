import Lindenmayer.Proofs.Document.Completeness
import Lindenmayer.Proofs.Document.Reading
import Lindenmayer.Proofs.Grammar.Extent

/-!
# The declared box covers what is printed

Three roundings have to agree. The box of a drawing is made of binary numbers; its sides
are declared in whole numbers, rounded outwards; and coordinates are printed in hundredths,
rounded to the nearest. The last rounding may carry a coordinate past a side of the box, but
not past the whole number declared for it. And no other points are printed than visited
ones, which the box covers.
-/

namespace Lindenmayer

/-- Whether the sides of a box, rounded outwards, are in the written range. -/
structure Box.IsPrintable (box : Box) : Prop where
  left : Decimal.InRange ⌊(Binary64.ofFloat box.min.x).value⌋
  bottom : Decimal.InRange ⌊(Binary64.ofFloat box.min.y).value⌋
  right : Decimal.InRange ⌈(Binary64.ofFloat box.max.x).value⌉
  top : Decimal.InRange ⌈(Binary64.ofFloat box.max.y).value⌉

namespace Document

/-- What is printed of a point of a box is within what is declared of the box. -/
theorem PrintedBox.contains_ofPoint {box : Box} {point : Point} (minFinite : box.min.isFinite)
    (maxFinite : box.max.isFinite) (finite : point.isFinite) (printable : box.IsPrintable)
    (contained : box.contains point) : (ofBox box).Contains (.ofPoint point) := by
  rcases Point.isFinite_iff.mp minFinite with ⟨leftFinite, bottomFinite⟩
  rcases Point.isFinite_iff.mp maxFinite with ⟨rightFinite, topFinite⟩
  rcases Point.isFinite_iff.mp finite with ⟨xFinite, yFinite⟩
  rcases Box.contains_iff.mp contained with ⟨⟨fromLeft, toRight⟩, ⟨fromBottom, toTop⟩⟩
  refine ⟨⟨?_, ?_⟩, ⟨?_, ?_⟩⟩
  · exact Decimal.floor_le_hundredthsOf leftFinite xFinite printable.left fromLeft
  · exact Decimal.hundredthsOf_le_ceiling rightFinite xFinite printable.right toRight
  · exact Decimal.floor_le_hundredthsOf bottomFinite yFinite printable.bottom fromBottom
  · exact Decimal.hundredthsOf_le_ceiling topFinite yFinite printable.top toTop

theorem PrintedCommand.points_ofCommand (command : PathCommand) :
    (ofCommand command).points = command.points.map PrintedPoint.ofPoint := by
  cases command <;> rfl

end Document

namespace DocumentStyle

open Document

variable {τ δ : Type} [Turtle τ] [Device δ]

/--
Every coordinate in the body of a document lies between the whole numbers that the trailer
declares for its axis, provided that all points visited are finite and the sides of their box
can be written. Body and declaration are taken as a reader finds them in the bytes received.
-/
theorem printed_within_declaredBox (style : DocumentStyle) (grammar : Grammar) (start : τ)
    (rounds : Int) (channel last : Channel δ) (box : Box)
    (rendered : style.render grammar start rounds channel = (.ok box, last))
    (finite : ∀ point ∈ grammar.visited (style.drawingTurtle start (#[] : Array PathCommand))
      rounds.toNat grammar.initiator grammar.randomStream, point.isFinite)
    (printable : box.IsPrintable) :
    ∃ (body : List String) (boxLine : String) (declared : PrintedBox),
      last.received = channel.received ++ (String.join
        (style.header ++ body.map line ++
          [line "%%Trailer", line boxLine, line "%%EOF"])).toUTF8 ∧
      readBox? boxLine = some declared ∧
      ∀ text ∈ body, ∃ command, readCommand? text = some command ∧
        ∀ point ∈ command.points, declared.Contains point := by
  rcases exists_drawing_of_render rendered with ⟨drawn, drawnRendered, rfl, received⟩
  have renderedFrom := (Grammar.render_eq_ok_iff.mp drawnRendered).2
  have hull : drawn.box.IsHullOf (grammar.visited
      (style.drawingTurtle start (#[] : Array PathCommand)) rounds.toNat grammar.initiator
      grammar.randomStream) :=
    Grammar.isHullOf_visited renderedFrom fun point visited =>
      Point.isNumeric_of_isFinite (finite point visited)
  rcases hull.corners_isFinite finite with ⟨minFinite, maxFinite⟩
  refine ⟨drawn.turtle.finish.toList.map commandText, "%%BoundingBox: " ++ boxText drawn.box,
    .ofBox drawn.box, ?_, readBox?_boxText drawn.box, ?_⟩
  · rw [received, List.map_map]
    rfl
  · intro text textMem
    rcases List.mem_map.mp textMem with ⟨command, commandMem, rfl⟩
    -- A reader finds the points of a command, and these have all been visited.
    have visited := TracingTurtle.points_of_rendered rfl rfl renderedFrom command commandMem
    refine ⟨.ofCommand command, readCommand?_commandText fun point pointMem =>
      finite point (visited point pointMem), ?_⟩
    intro printed printedMem
    rw [PrintedCommand.points_ofCommand] at printedMem
    rcases List.mem_map.mp printedMem with ⟨point, pointMem, rfl⟩
    exact PrintedBox.contains_ofPoint minFinite maxFinite (finite point (visited point pointMem))
      printable (hull.contains point (visited point pointMem))

/-- Brackets within brackets: all moves lead back to where they have begun. -/
def nestedBrackets : List GrammarEdit := [.setAction '[' "push", .setAction ']' "pop",
  .addRule '[' "[[]", .setInitiator "[]"]

/-- A position whose upper coordinate is printed as `1.00` although it is less than one. -/
def almostOne : SilentTurtle :=
  { SilentTurtle.standard with pen.pose.position := ⟨-0.375, 0.996⟩ }

theorem printed_within_declaredBox_nestedBrackets :
    let style := ofTitle "brackets"
    let grammar := Grammar.ofEdits nestedBrackets
    let visited := grammar.visited (style.drawingTurtle almostOne (#[] : Array PathCommand)) 2
      grammar.initiator grammar.randomStream
    ∃ (box : Box) (last : Channel Paper) (body : List String) (boxLine : String)
      (declared : PrintedBox),
      style.render grammar almostOne 2 (Channel.ofDevice Paper.mk) = (.ok box, last) ∧
      (∀ point ∈ visited, point.isFinite) ∧
      box.IsPrintable ∧
      last.received = (String.join (style.header ++ body.map line ++
        [line "%%Trailer", line boxLine, line "%%EOF"])).toUTF8 ∧
      readBox? boxLine = some declared ∧
      ∀ text ∈ body, ∃ command, readCommand? text = some command ∧
        ∀ point ∈ command.points, declared.Contains point := by
  intro style grammar visited
  have succeeds : (style.render grammar almostOne 2 (Channel.ofDevice Paper.mk)).1.isOk := by
    decide +kernel
  have stays : ∀ point ∈ visited,
      Binary64.ofFloat point.x = .finite true 6755399441055744 (-54) ∧
        Binary64.ofFloat point.y = .finite false 8971170457722028 (-53) := by decide +kernel
  have finite : ∀ point ∈ visited, point.isFinite := by decide +kernel
  have writable : ∀ point ∈ visited,
      (Decimal.InRange ⌊(Binary64.ofFloat point.x).value⌋ ∧
        Decimal.InRange ⌈(Binary64.ofFloat point.x).value⌉) ∧
      (Decimal.InRange ⌊(Binary64.ofFloat point.y).value⌋ ∧
        Decimal.InRange ⌈(Binary64.ofFloat point.y).value⌉) := by
    intro point pointMem
    rw [(stays point pointMem).1, (stays point pointMem).2]
    simp only [← Decimal.floorOf_eq_floor, ← Decimal.ceilingOf_eq_ceil]
    decide
  rcases rendered : style.render grammar almostOne 2 (Channel.ofDevice Paper.mk) with
    ⟨error | box, last⟩
  · rw [rendered] at succeeds
    cases succeeds
  · rcases exists_drawing_of_render rendered with ⟨drawn, drawnRendered, rfl, _⟩
    have hull := Grammar.isHullOf_visited (Grammar.render_eq_ok_iff.mp drawnRendered).2
      fun point pointMem => Point.isNumeric_of_isFinite (finite point pointMem)
    rcases @Box.IsHullOf.sides _ _ (fun side => Decimal.InRange ⌊(Binary64.ofFloat side).value⌋ ∧
      Decimal.InRange ⌈(Binary64.ofFloat side).value⌉) hull writable with
      ⟨⟨left, bottom⟩, right, top⟩
    have printable : drawn.box.IsPrintable := ⟨left.1, bottom.1, right.2, top.2⟩
    rcases style.printed_within_declaredBox grammar almostOne 2 (.ofDevice Paper.mk) last drawn.box
      rendered finite printable with ⟨body, boxLine, declared, received, boxRead, within⟩
    exact ⟨drawn.box, last, body, boxLine, declared, rfl, finite, printable,
      received.trans ByteArray.empty_append, boxRead, within⟩

end DocumentStyle

end Lindenmayer
