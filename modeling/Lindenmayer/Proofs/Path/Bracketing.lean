import Mathlib
import Lindenmayer.Path.Bracketing
import Lindenmayer.Proofs.Turtle.Emission

/-!
# Paths are well bracketed

A list of path commands is read here command by command, with nothing kept in mind but
whether a path is open. A list that can be read through in this way is one that the
regular expression of paths matches, and the other way round; each of its commands has
its place.

The commands of every call can be read from where the path flag of the turtle says that
the calls before it have led, and they lead to where the flag says afterwards. Push and
pop leave the flag set while they paint one path and begin another, so it is between calls
and not between commands that the flag can be relied on.
-/

namespace Lindenmayer

namespace PathCommand.Kind

open RegularExpression
open scoped Computability

/-- Whether a path is open after a command, if the command has a place there. -/
def follow? : Bool → Kind → Option Bool
  | false, newPath => some true
  | true, lineTo => some true
  | pathOpen, moveTo => some pathOpen
  | true, stroke => some false
  | _, _ => none

def followAll? (pathOpen : Bool) (kinds : List Kind) : Option Bool :=
  kinds.foldlM follow? pathOpen

section Following

theorem followAll?_append (pathOpen : Bool) (first second : List Kind) :
    followAll? pathOpen (first ++ second) =
      (followAll? pathOpen first).bind fun middle => followAll? middle second :=
  List.foldlM_append

theorem followAll?_append_eq_some_iff {before after : Bool} {first second : List Kind} :
    followAll? before (first ++ second) = some after ↔
      ∃ middle, followAll? before first = some middle ∧ followAll? middle second = some after := by
  rw [followAll?_append, Option.bind_eq_some_iff]

/-- A path is begun only where none is open, and drawn and painted only where one is. -/
theorem follow?_eq_some_iff {before after : Bool} {kind : Kind} :
    follow? before kind = some after ↔
      (kind = newPath ∧ before = false ∧ after = true) ∨
        (kind = lineTo ∧ before = true ∧ after = true) ∨
        (kind = moveTo ∧ after = before) ∨
        (kind = stroke ∧ before = true ∧ after = false) := by
  cases kind <;> cases before <;> cases after <;> simp [follow?]

theorem followAll?_singleton (pathOpen : Bool) (kind : Kind) :
    followAll? pathOpen [kind] = follow? pathOpen kind := by
  simp [followAll?]

end Following

/-! ## The expression matches what can be read -/

section Matching

/-- The lists that can be read from one state to another. -/
def leading (before after : Bool) : Language Kind :=
  {kinds | followAll? before kinds = some after}

theorem mul_le_leading {before middle after : Bool} {first second : Language Kind}
    (firstLe : first ≤ leading before middle) (secondLe : second ≤ leading middle after) :
    first * second ≤ leading before after := by
  rintro _ ⟨front, frontMem, back, backMem, rfl⟩
  exact followAll?_append_eq_some_iff.mpr ⟨middle, firstLe frontMem, secondLe backMem⟩

theorem kstar_le_leading {pathOpen : Bool} {language : Language Kind}
    (le : language ≤ leading pathOpen pathOpen) : language∗ ≤ leading pathOpen pathOpen := by
  apply kstar_le_of_mul_le_left
  · rintro _ rfl
    rfl
  · exact mul_le_leading (le_refl _) le

theorem char_le_leading {before after : Bool} {kind : Kind}
    (place : follow? before kind = some after) : (char kind).matches' ≤ leading before after := by
  rintro _ rfl
  exact (followAll?_singleton before kind).trans place

theorem moves_le_leading (pathOpen : Bool) : moves.matches' ≤ leading pathOpen pathOpen :=
  kstar_le_leading (char_le_leading (by cases pathOpen <;> rfl))

theorem unpaintedPath_le_leading : unpaintedPath.matches' ≤ leading false true := by
  apply mul_le_leading (char_le_leading rfl)
  apply kstar_le_leading
  rw [matches'_add]
  exact add_le (char_le_leading rfl) (char_le_leading rfl)

theorem paintedPaths_le_leading : paintedPaths.matches' ≤ leading false false := by
  apply mul_le_leading (moves_le_leading false)
  apply kstar_le_leading
  apply mul_le_leading _ (moves_le_leading false)
  exact mul_le_leading unpaintedPath_le_leading (char_le_leading rfl)

/-- The lists that have led to a state, as an expression. -/
def pathsUpTo : Bool → RegularExpression Kind
  | false => paintedPaths
  | true => paintedPaths * unpaintedPath

theorem pathsUpTo_le_leading (pathOpen : Bool) :
    (pathsUpTo pathOpen).matches' ≤ leading false pathOpen := by
  cases pathOpen with
  | false => exact paintedPaths_le_leading
  | true => exact mul_le_leading paintedPaths_le_leading unpaintedPath_le_leading

/-- A path may be begun after painted ones. -/
theorem paintedPaths_mul_newPath_le :
    paintedPaths.matches' * (char newPath).matches' ≤
      (paintedPaths * unpaintedPath).matches' := by
  rw [matches'_mul]
  apply mul_le_mul_right
  calc (char newPath).matches' = (char newPath).matches' * 1 := (mul_one _).symm
    _ ≤ (char newPath).matches' * (char lineTo + char moveTo).matches'∗ :=
        mul_le_mul_right one_le_kstar _

/-- An unpainted path may be gone on with. -/
theorem unpaintedPath_mul_le {kind : Kind} (goesOn : kind = lineTo ∨ kind = moveTo) :
    unpaintedPath.matches' * (char kind).matches' ≤ unpaintedPath.matches' := by
  have listed : (char kind).matches' ≤ (char lineTo + char moveTo).matches' := by
    rw [matches'_add]
    rcases goesOn with rfl | rfl
    · exact le_sup_left
    · exact le_sup_right
  rw [unpaintedPath, matches'_mul, matches'_star, mul_assoc]
  apply mul_le_mul_right
  exact (mul_le_mul_right listed _).trans kstar_mul_le_kstar

/-- An unpainted path may be painted. -/
theorem pathsUnderway_mul_stroke_le :
    (paintedPaths * unpaintedPath).matches' * (char stroke).matches' ≤ paintedPaths.matches' := by
  have painted : unpaintedPath.matches' * (char stroke).matches' ≤
      (unpaintedPath * char stroke * moves).matches' := by
    calc unpaintedPath.matches' * (char stroke).matches'
        = unpaintedPath.matches' * (char stroke).matches' * 1 := (mul_one _).symm
      _ ≤ unpaintedPath.matches' * (char stroke).matches' * moves.matches' :=
          mul_le_mul_right one_le_kstar _
  rw [matches'_mul, mul_assoc]
  apply (mul_le_mul_right painted _).trans
  rw [paintedPaths, matches'_mul, matches'_star, mul_assoc]
  exact mul_le_mul_right kstar_mul_le_kstar _

/-- Painted paths may be followed by moves. -/
theorem paintedPaths_mul_moveTo_le :
    paintedPaths.matches' * (char moveTo).matches' ≤ paintedPaths.matches' := by
  let move : Language Kind := (char moveTo).matches'
  let front : Language Kind := moves.matches'
  let cycle : Language Kind := (unpaintedPath * char stroke * moves).matches'
  have frontMoved : front * move ≤ front := kstar_mul_le_kstar
  have cycleMoved : cycle * move ≤ cycle := by
    change unpaintedPath.matches' * (char stroke).matches' * front * move ≤ _
    rw [mul_assoc]
    exact mul_le_mul_right frontMoved _
  change front * cycle∗ * move ≤ front * cycle∗
  -- The moves at the end belong to the last cycle, or to the front if there is none.
  calc front * cycle∗ * move = front * (1 + cycle∗ * cycle) * move := by rw [one_add_kstar_mul]
    _ = front * move + front * (cycle∗ * (cycle * move)) := by
        rw [mul_add, mul_one, add_mul, mul_assoc front, mul_assoc cycle∗]
    _ ≤ front + front * (cycle∗ * cycle) :=
        add_le_add frontMoved (mul_le_mul_right (mul_le_mul_right cycleMoved _) _)
    _ = front * (1 + cycle∗ * cycle) := by rw [mul_add, mul_one]
    _ = front * cycle∗ := by rw [one_add_kstar_mul]

theorem pathsUpTo_mul_char_le {before after : Bool} {kind : Kind}
    (place : follow? before kind = some after) :
    (pathsUpTo before).matches' * (char kind).matches' ≤ (pathsUpTo after).matches' := by
  rcases follow?_eq_some_iff.mp place with
    ⟨rfl, rfl, rfl⟩ | ⟨rfl, rfl, rfl⟩ | ⟨rfl, rfl⟩ | ⟨rfl, rfl, rfl⟩
  · exact paintedPaths_mul_newPath_le
  · rw [pathsUpTo, matches'_mul, mul_assoc]
    exact mul_le_mul_right (unpaintedPath_mul_le (.inl rfl)) _
  · cases after with
    | false => exact paintedPaths_mul_moveTo_le
    | true =>
        rw [pathsUpTo, matches'_mul, mul_assoc]
        exact mul_le_mul_right (unpaintedPath_mul_le (.inr rfl)) _
  · exact pathsUnderway_mul_stroke_le

theorem mem_pathsUpTo_of_followAll? {pathOpen : Bool} {kinds : List Kind}
    (followed : followAll? false kinds = some pathOpen) :
    kinds ∈ (pathsUpTo pathOpen).matches' := by
  -- Expressions are lengthened at the end, so the induction is on the last command.
  induction kinds using List.reverseRecOn generalizing pathOpen with
  | nil =>
      cases followed
      exact ⟨[], Language.nil_mem_kstar _, [], Language.nil_mem_kstar _, rfl⟩
  | append_singleton kinds kind inductionHypothesis =>
      rcases followAll?_append_eq_some_iff.mp followed with ⟨middle, earlier, last⟩
      rw [followAll?_singleton] at last
      exact pathsUpTo_mul_char_le last
        (Language.append_mem_mul (inductionHypothesis earlier) rfl)

/-- A list can be read from the beginning to a state just if the expression for it matches. -/
theorem mem_pathsUpTo_iff {pathOpen : Bool} {kinds : List Kind} :
    kinds ∈ (pathsUpTo pathOpen).matches' ↔ followAll? false kinds = some pathOpen :=
  ⟨fun mem => pathsUpTo_le_leading pathOpen mem, mem_pathsUpTo_of_followAll?⟩

theorem mem_paths_iff {kinds : List Kind} :
    kinds ∈ paths.matches' ↔ ∃ pathOpen, followAll? false kinds = some pathOpen := by
  have split :
      paths.matches' = paintedPaths.matches' + (paintedPaths * unpaintedPath).matches' := by
    rw [paths, matches'_mul, matches'_add, matches'_epsilon, mul_add, mul_one, matches'_mul]
  rw [split, Language.mem_add, Bool.exists_bool, ← mem_pathsUpTo_iff, ← mem_pathsUpTo_iff]
  rfl

end Matching

/-! ## What can be read is well bracketed -/

section Brackets

variable {pathOpen : Bool} {kinds : List Kind}

theorem exists_filter_isBracket_eq (followed : followAll? false kinds = some pathOpen) :
    ∃ count, kinds.filter isBracket =
      (List.replicate count [newPath, stroke]).flatten ++ if pathOpen then [newPath] else [] := by
  induction kinds using List.reverseRecOn generalizing pathOpen with
  | nil =>
      cases followed
      exact ⟨0, rfl⟩
  | append_singleton kinds kind inductionHypothesis =>
      rcases followAll?_append_eq_some_iff.mp followed with ⟨middle, earlier, last⟩
      rw [followAll?_singleton] at last
      rcases inductionHypothesis earlier with ⟨count, brackets⟩
      rw [List.filter_append, brackets]
      rcases follow?_eq_some_iff.mp last with
        ⟨rfl, rfl, rfl⟩ | ⟨rfl, rfl, rfl⟩ | ⟨rfl, rfl⟩ | ⟨rfl, rfl, rfl⟩
      · exact ⟨count, by simp [isBracket]⟩
      · exact ⟨count, by simp [isBracket]⟩
      · exact ⟨count, by simp [isBracket]⟩
      · refine ⟨count + 1, ?_⟩
        simp [List.replicate_succ', isBracket]

theorem endsInPath_iff (followed : followAll? false kinds = some pathOpen) :
    EndsInPath kinds ↔ pathOpen = true := by
  rcases exists_filter_isBracket_eq followed with ⟨count, brackets⟩
  rw [EndsInPath, brackets]
  cases pathOpen with
  | true => simp
  | false => cases count <;> simp [List.replicate_succ']

theorem areWellBracketed_of_followAll? (followed : followAll? false kinds = some false) :
    AreWellBracketed kinds := by
  have placed : ∀ before kind after, kinds = before ++ kind :: after →
      ∃ middle next, (EndsInPath before ↔ middle = true) ∧ follow? middle kind = some next := by
    intro before kind after split
    rw [split, ← List.singleton_append] at followed
    rcases followAll?_append_eq_some_iff.mp followed with ⟨middle, earlier, later⟩
    rcases followAll?_append_eq_some_iff.mp later with ⟨next, here, _⟩
    rw [followAll?_singleton] at here
    exact ⟨middle, next, endsInPath_iff earlier, here⟩
  constructor
  · simpa using exists_filter_isBracket_eq followed
  · intro before after split
    rcases placed before newPath after split with ⟨middle, next, inPath, here⟩
    rw [inPath]
    simp_all [follow?_eq_some_iff]
  · intro before after split
    rcases placed before lineTo after split with ⟨middle, next, inPath, here⟩
    rw [inPath]
    simp_all [follow?_eq_some_iff]
  · intro before after split
    rcases placed before stroke after split with ⟨middle, next, inPath, here⟩
    rw [inPath]
    simp_all [follow?_eq_some_iff]

end Brackets

end PathCommand.Kind

/-! ## What turtles send can be read -/

namespace TurtleCall

open PathCommand.Kind

/-- The commands of a call can be read where the path flag says, and lead to where it says then. -/
theorem followAll?_commands (call : TurtleCall) (pen : Pen) (pathOpen : Bool) :
    followAll? pathOpen ((call.commands pen pathOpen).map PathCommand.kind) =
      some (call.leavesOpen pathOpen) := by
  cases call with
  | pop =>
      rw [commands]
      cases pen.pop? <;> cases pathOpen <;> rfl
  | _ => cases pathOpen <;> rfl

theorem followAll?_commandsOfAll (pen : Pen) (pathOpen : Bool) (calls : List TurtleCall) :
    followAll? pathOpen ((commandsOfAll pen pathOpen calls).map PathCommand.kind) =
      some (calls.foldl leavesOpen pathOpen) := by
  induction calls generalizing pen pathOpen with
  | nil => rfl
  | cons call rest inductionHypothesis =>
      rw [commandsOfAll, List.map_append, followAll?_append, followAll?_commands]
      exact inductionHypothesis (call.onPen pen) (call.leavesOpen pathOpen)

end TurtleCall

namespace TracingTurtle

open PathCommand.Kind

/-- The kinds of the commands that a turtle has sent to an array. -/
def sentKinds (turtle : TracingTurtle (Array PathCommand)) : List PathCommand.Kind :=
  turtle.sink.toList.map PathCommand.kind

/-- Whether the path flag of a turtle says where the commands that it has sent lead to. -/
def FlagsPath (turtle : TracingTurtle (Array PathCommand)) : Prop :=
  followAll? false turtle.sentKinds = some turtle.pathOpen

variable {turtle : TracingTurtle (Array PathCommand)}

theorem FlagsPath.performAll (flags : turtle.FlagsPath) (calls : List TurtleCall) :
    FlagsPath (TurtleCall.performAll turtle calls) := by
  rw [performAll_eq]
  simp only [FlagsPath, sentKinds, PathSink.toList_emitAll, List.map_append]
  exact followAll?_append_eq_some_iff.mpr
    ⟨turtle.pathOpen, flags, TurtleCall.followAll?_commandsOfAll turtle.pen turtle.pathOpen calls⟩

theorem FlagsPath.finish (flags : turtle.FlagsPath) :
    followAll? false (turtle.finish.toList.map PathCommand.kind) = some false := by
  rw [finish_eq, PathSink.toList_emitAll, List.map_append]
  refine followAll?_append_eq_some_iff.mpr ⟨turtle.pathOpen, flags, ?_⟩
  cases turtle.pathOpen <;> rfl

theorem FlagsPath.pathOpen_eq_iff (flags : turtle.FlagsPath) (pathOpen : Bool) :
    turtle.pathOpen = pathOpen ↔ turtle.sentKinds ∈ (pathsUpTo pathOpen).matches' := by
  rw [mem_pathsUpTo_iff, flags, Option.some_inj]

/--
Whatever a fresh turtle is told, what it has sent is a list of paths that have been begun and
painted, with an unpainted one after them just if the path flag is set. When the turtle is
finished no path is unpainted: paths are begun and painted by turns, and nothing is drawn and
nothing painted outside of them. What has been sent is a list of paths at every moment, also
between the commands of a call.
-/
theorem sent_wellBracketed (vocabulary : Vocabulary) (calls : List TurtleCall) :
    let fresh : TracingTurtle (Array PathCommand) := { standard #[] with vocabulary }
    let turtle := TurtleCall.performAll fresh calls
    let sent := turtle.sink.toList.map PathCommand.kind
    let finished := turtle.finish.toList.map PathCommand.kind
    sent ∈ paths.matches' ∧
      (turtle.pathOpen = true ↔ sent ∈ (paintedPaths * unpaintedPath).matches') ∧
      (turtle.pathOpen = false ↔ sent ∈ paintedPaths.matches') ∧
      finished ∈ paintedPaths.matches' ∧ AreWellBracketed finished ∧
      ∀ count, finished.take count ∈ paths.matches' := by
  intro fresh turtle sent finished
  have freshFlags : fresh.FlagsPath := rfl
  have flags : turtle.FlagsPath := freshFlags.performAll calls
  have followed : followAll? false finished = some false := flags.finish
  refine ⟨mem_paths_iff.mpr ⟨_, flags⟩, flags.pathOpen_eq_iff true, flags.pathOpen_eq_iff false,
    mem_pathsUpTo_of_followAll? followed, areWellBracketed_of_followAll? followed, ?_⟩
  intro count
  rw [← List.take_append_drop count finished] at followed
  rcases followAll?_append_eq_some_iff.mp followed with ⟨pathOpen, earlier, _⟩
  exact mem_paths_iff.mpr ⟨pathOpen, earlier⟩

end TracingTurtle

end Lindenmayer
