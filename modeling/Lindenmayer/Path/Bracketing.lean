import Mathlib.Computability.RegularExpressions
import Lindenmayer.Path.Command

/-!
# Well-bracketed paths

What a list of path commands looks like if each path is begun before anything is drawn
on it, and painted before the next one is begun. Points play no part in this, only the
kinds of the commands do. It is said in two ways: of a list as a whole, by a regular
expression, and of each command in a list, by what has come before it.
-/

namespace Lindenmayer.PathCommand

/-- What a command does, without the point that it names. -/
inductive Kind where
  | newPath
  | lineTo
  | moveTo
  | stroke
deriving DecidableEq, Repr

def kind : PathCommand → Kind
  | newPath _ => .newPath
  | lineTo _ => .lineTo
  | moveTo _ => .moveTo
  | stroke => .stroke

namespace Kind

open RegularExpression

def moves : RegularExpression Kind := (char moveTo).star

/-- A path that has been begun and not been painted. -/
def unpaintedPath : RegularExpression Kind := char newPath * (char lineTo + char moveTo).star

/-- Paths that have been begun and painted, with moves before, between and after them. -/
def paintedPaths : RegularExpression Kind := moves * (unpaintedPath * char stroke * moves).star

/-- Painted paths, and an unpainted one after them or not. -/
def paths : RegularExpression Kind := paintedPaths * (1 + unpaintedPath)

/-- Whether a command begins or paints a path. -/
def isBracket : Kind → Bool
  | newPath => true
  | stroke => true
  | _ => false

/-- Whether the path begun last is not painted yet. -/
def EndsInPath (kinds : List Kind) : Prop :=
  (kinds.filter isBracket).getLast? = some newPath

instance : DecidablePred EndsInPath := fun kinds =>
  inferInstanceAs (Decidable ((kinds.filter isBracket).getLast? = some newPath))

/-- Whether every command has its place: each path is painted, and drawing is done on paths only. -/
structure AreWellBracketed (kinds : List Kind) : Prop where
  /-- Paths are begun and painted by turns. -/
  alternate : ∃ count, kinds.filter isBracket = (List.replicate count [newPath, stroke]).flatten
  begun : ∀ before after, kinds = before ++ newPath :: after → ¬EndsInPath before
  drawn : ∀ before after, kinds = before ++ lineTo :: after → EndsInPath before
  painted : ∀ before after, kinds = before ++ stroke :: after → EndsInPath before

end Kind

end Lindenmayer.PathCommand
