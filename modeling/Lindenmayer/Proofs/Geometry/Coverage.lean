import Lindenmayer.Geometry.Coverage
import Lindenmayer.Proofs.Geometry.Union

/-!
# What a box covers when there are NaNs

A side is moved by one comparison, and a comparison with a NaN fails. So a NaN among the
newcomers takes the place of a side; and as a side it is replaced by whatever comes next.
What was covered before is lost then, on the axis of the NaN, and the box goes on as one
that begins after it. Infinities do not disturb the order, and do no harm.

The four sides are treated alike. A side reaches a number if the number is not outside of it;
what a side reaches in the end is what one of the newcomers after the last NaN reaches.
-/

namespace Lindenmayer

section Axis

/--
What the sides on an axis have in common: how the number is picked that is a side from a newcomer
on, and what it is for a number to reach out far enough.
-/
structure IsSide (pick : Float → Float → Float) (reaches : Float → Prop) : Prop where
  undefined : ∀ {number : Float}, number.isNaN = true → ¬reaches number
  replaced : ∀ {held newcomer : Float}, held.isNaN = true ∨ newcomer.isNaN = true →
    pick held newcomer = newcomer
  numeric : ∀ {held newcomer : Float}, held.isNaN = false → newcomer.isNaN = false →
    (reaches (pick held newcomer) ↔ reaches held ∨ reaches newcomer)

theorem isSide_lesser (number : Float) : IsSide lesser (· ≤ number) where
  undefined isNaN := Binary64.not_le_of_isNaN (.inl isNaN)
  replaced isNaN := if_neg (Binary64.not_lt_of_isNaN isNaN)
  numeric heldNumeric newcomerNumeric := lesser_le_iff heldNumeric newcomerNumeric

theorem isSide_greater (number : Float) : IsSide greater (number ≤ ·) where
  undefined isNaN := Binary64.not_le_of_isNaN (.inr isNaN)
  replaced isNaN := if_neg (Binary64.not_lt_of_isNaN isNaN.symm)
  numeric heldNumeric newcomerNumeric := le_greater_iff heldNumeric newcomerNumeric

theorem sinceNaN_concat (numbers : List Float) (last : Float) :
    sinceNaN (numbers ++ [last]) = if last.isNaN then [] else sinceNaN numbers ++ [last] := by
  rw [sinceNaN, List.rtakeWhile_concat]
  cases last.isNaN <;> rfl

namespace IsSide

variable {pick : Float → Float → Float} {reaches : Float → Prop}

/-- One newcomer: a NaN makes all reaches void, and another number adds its own. -/
theorem reaches_pick_iff (side : IsSide pick reaches) (held newcomer : Float) :
    reaches (pick held newcomer) ↔
      newcomer.isNaN = false ∧ (reaches held ∨ reaches newcomer) := by
  cases newcomerUndefined : newcomer.isNaN with
  | true =>
      rw [side.replaced (.inr newcomerUndefined)]
      exact iff_of_false (side.undefined newcomerUndefined) (by simp)
  | false =>
      rw [eq_self, true_and]
      cases heldUndefined : held.isNaN with
      | true =>
          rw [side.replaced (.inl heldUndefined)]
          exact (or_iff_right (side.undefined heldUndefined)).symm
      | false => exact side.numeric heldUndefined newcomerUndefined

/-- All newcomers: only those after the last NaN count. -/
theorem reaches_foldl_iff (side : IsSide pick reaches) (first : Float) (rest : List Float) :
    reaches (rest.foldl pick first) ↔ ∃ number ∈ sinceNaN (first :: rest), reaches number := by
  induction rest using List.reverseRecOn with
  | nil =>
      rw [← List.nil_append [first], sinceNaN_concat]
      cases firstUndefined : first.isNaN with
      | true => exact iff_of_false (side.undefined firstUndefined) (by simp)
      | false => simp [sinceNaN]
  | append_singleton rest last inductionHypothesis =>
      rw [List.foldl_append, List.foldl_cons, List.foldl_nil, side.reaches_pick_iff,
        inductionHypothesis, ← List.cons_append, sinceNaN_concat]
      cases last.isNaN with
      | true => simp
      | false => simp [or_and_right, exists_or]

end IsSide

theorem sinceNaN_append {earlier later : List Float}
    (numeric : ∀ number ∈ later, number.isNaN = false) :
    sinceNaN (earlier ++ later) = sinceNaN earlier ++ later := by
  induction later using List.reverseRecOn with
  | nil => simp only [List.append_nil]
  | append_singleton later last inductionHypothesis =>
      have lastNumeric : last.isNaN = false := numeric last (by simp)
      have laterNumeric : ∀ number ∈ later, number.isNaN = false :=
        fun number numberMem => numeric number (List.mem_append_left _ numberMem)
      rw [← List.append_assoc, sinceNaN_concat, lastNumeric, inductionHypothesis laterNumeric,
        List.append_assoc]
      rfl

theorem liesBetween_of_mem {number : Float} {numbers : List Float}
    (numeric : number.isNaN = false) (numberMem : number ∈ numbers) :
    LiesBetween number numbers := by
  have reflexive : number ≤ number := (Binary64.le_iff_leastUnits_le numeric numeric).mpr le_rfl
  exact ⟨⟨number, numberMem, reflexive⟩, number, numberMem, reflexive⟩

end Axis

/-- A point lies among the points visited since a NaN, provided that it is one of them. -/
theorem Point.liesBetweenLatest_of_mem {earlier later : List Point}
    (numeric : ∀ point ∈ later, point.isNumeric) {point : Point} (pointMem : point ∈ later) :
    point.LiesBetweenLatest (earlier ++ later) := by
  have pointNumeric := isNumeric_iff.mp (numeric point pointMem)
  have xNumeric : ∀ x ∈ later.map Point.x, x.isNaN = false := by
    intro x xMem
    rcases List.mem_map.mp xMem with ⟨other, otherMem, rfl⟩
    exact (isNumeric_iff.mp (numeric other otherMem)).1
  have yNumeric : ∀ y ∈ later.map Point.y, y.isNaN = false := by
    intro y yMem
    rcases List.mem_map.mp yMem with ⟨other, otherMem, rfl⟩
    exact (isNumeric_iff.mp (numeric other otherMem)).2
  constructor
  · rw [List.map_append, sinceNaN_append xNumeric]
    exact liesBetween_of_mem pointNumeric.1 (List.mem_append_right _ (List.mem_map_of_mem pointMem))
  · rw [List.map_append, sinceNaN_append yNumeric]
    exact liesBetween_of_mem pointNumeric.2 (List.mem_append_right _ (List.mem_map_of_mem pointMem))

namespace Box

theorem covering_eq_foldl (start : Point) (points : List Point) :
    covering start points =
      { min := ⟨(points.map Point.x).foldl lesser start.x,
          (points.map Point.y).foldl lesser start.y⟩
        max := ⟨(points.map Point.x).foldl greater start.x,
          (points.map Point.y).foldl greater start.y⟩ } := by
  induction points using List.reverseRecOn with
  | nil => rfl
  | append_singleton points last inductionHypothesis =>
      rw [covering_concat, ← insert_eq_union, inductionHypothesis]
      simp [insert]

/-- A grown box contains just what lies between the coordinates after the last NaN of each axis. -/
theorem covering_contains_iff {start : Point} {points : List Point} {point : Point} :
    (covering start points).contains point ↔ point.LiesBetweenLatest (start :: points) := by
  rw [covering_eq_foldl, contains_iff, (isSide_lesser point.x).reaches_foldl_iff,
    (isSide_greater point.x).reaches_foldl_iff, (isSide_lesser point.y).reaches_foldl_iff,
    (isSide_greater point.y).reaches_foldl_iff]
  constructor
  · rintro ⟨onX, onY⟩
    exact ⟨onX, onY⟩
  · rintro ⟨onX, onY⟩
    exact ⟨onX, onY⟩

end Box

end Lindenmayer
