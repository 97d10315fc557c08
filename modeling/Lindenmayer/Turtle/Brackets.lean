import Mathlib.Data.List.Infix
import Lindenmayer.Turtle.Operation

/-!
# Brackets

Saving a pose opens a bracket, and restoring one closes it. Which brackets belong together
is said here of a list of operations alone, by places in the list: an opening and a closing
bracket match if what stands between them is balanced. No stack occurs in this. A closing
bracket need not match any opening one.
-/

namespace Lindenmayer.Operation

/-- Whether as many brackets are closed as opened, and never more than have been opened by then. -/
def IsBalanced (operations : List Operation) : Prop :=
  operations.count .pop = operations.count .push ∧
    ∀ front, front <+: operations → front.count .pop ≤ front.count .push

instance : DecidablePred IsBalanced := fun operations =>
  decidable_of_iff (operations.count .pop = operations.count .push ∧
      ∀ front ∈ operations.inits, front.count .pop ≤ front.count .push)
    (by simp only [IsBalanced, List.mem_inits])

/-- Whether the brackets at two places belong together. -/
def Matches (operations : List Operation) (opening closing : Nat) : Prop :=
  opening < closing ∧ operations[opening]? = some .push ∧ operations[closing]? = some .pop ∧
    IsBalanced ((operations.take closing).drop (opening + 1))

instance (operations : List Operation) (opening closing : Nat) :
    Decidable (Matches operations opening closing) :=
  inferInstanceAs (Decidable (_ ∧ _ ∧ _ ∧ _))

/-- Whether a bracket is opened at a place and not closed any more. -/
def IsUnmatched (operations : List Operation) (opening : Nat) : Prop :=
  operations[opening]? = some .push ∧
    ∀ closing < operations.length, ¬Matches operations opening closing

instance (operations : List Operation) : DecidablePred (IsUnmatched operations) := fun _ =>
  inferInstanceAs (Decidable (_ ∧ _))

/-- The places of the brackets that are not closed, in order. -/
def unmatched (operations : List Operation) : List Nat :=
  (List.range operations.length).filter fun opening => IsUnmatched operations opening

end Lindenmayer.Operation
