import Mathlib.Data.List.Induction
import Lindenmayer.Geometry.Hull
import Lindenmayer.Grammar.Execution
import Lindenmayer.Proofs.Binary64.Order

/-!
# A grown box is a hull

A box that has been grown point by point is the hull of these points, as long as no
coordinate is a NaN. More generally two hulls united are the hull of all points: each
side of the union is a side of one of them, and nothing that they contain is lost. To add
one point at the end is to unite with the box of no area there.

On an axis the sides are followed through the integers that numbers amount to, where
taking the smaller or the greater number is taking a minimum or a maximum. This does
not tell the zeros apart, so what is found to be equal there may differ in sign; that
each side is one of the coordinates is said of the numbers themselves.
-/

namespace Lindenmayer

section Axis

variable {held newcomer : Float}

theorem lesser_eq_or (held newcomer : Float) :
    lesser held newcomer = held ∨ lesser held newcomer = newcomer := by
  by_cases smaller : held < newcomer
  · exact .inl (if_pos smaller)
  · exact .inr (if_neg smaller)

theorem greater_eq_or (held newcomer : Float) :
    greater held newcomer = held ∨ greater held newcomer = newcomer := by
  by_cases larger : held > newcomer
  · exact .inl (if_pos larger)
  · exact .inr (if_neg larger)

theorem leastUnits_lesser (heldNumeric : held.isNaN = false)
    (newcomerNumeric : newcomer.isNaN = false) :
    (Binary64.ofFloat (lesser held newcomer)).leastUnits =
      min (Binary64.ofFloat held).leastUnits (Binary64.ofFloat newcomer).leastUnits := by
  have order := Binary64.lt_iff_leastUnits_lt heldNumeric newcomerNumeric
  by_cases smaller : held < newcomer
  · rw [lesser, if_pos smaller, min_eq_left (order.mp smaller).le]
  · rw [lesser, if_neg smaller, min_eq_right (not_lt.mp (mt order.mpr smaller))]

theorem leastUnits_greater (heldNumeric : held.isNaN = false)
    (newcomerNumeric : newcomer.isNaN = false) :
    (Binary64.ofFloat (greater held newcomer)).leastUnits =
      max (Binary64.ofFloat held).leastUnits (Binary64.ofFloat newcomer).leastUnits := by
  have order := Binary64.lt_iff_leastUnits_lt newcomerNumeric heldNumeric
  by_cases larger : held > newcomer
  · rw [greater, if_pos larger, max_eq_left (order.mp larger).le]
  · rw [greater, if_neg larger, max_eq_right (not_lt.mp (mt order.mpr larger))]

/-- The lesser of two numbers stays below what one of them stays below. -/
theorem lesser_le_iff {number : Float} (heldNumeric : held.isNaN = false)
    (newcomerNumeric : newcomer.isNaN = false) :
    lesser held newcomer ≤ number ↔ held ≤ number ∨ newcomer ≤ number := by
  cases numberUndefined : number.isNaN with
  | true => simp only [Binary64.not_le_of_isNaN (.inr numberUndefined), or_self]
  | false =>
      have lesserNumeric : (lesser held newcomer).isNaN = false := by
        rcases lesser_eq_or held newcomer with same | same <;> rwa [same]
      rw [Binary64.le_iff_leastUnits_le lesserNumeric numberUndefined,
        Binary64.le_iff_leastUnits_le heldNumeric numberUndefined,
        Binary64.le_iff_leastUnits_le newcomerNumeric numberUndefined,
        leastUnits_lesser heldNumeric newcomerNumeric, min_le_iff]

theorem le_greater_iff {number : Float} (heldNumeric : held.isNaN = false)
    (newcomerNumeric : newcomer.isNaN = false) :
    number ≤ greater held newcomer ↔ number ≤ held ∨ number ≤ newcomer := by
  cases numberUndefined : number.isNaN with
  | true => simp only [Binary64.not_le_of_isNaN (.inl numberUndefined), or_self]
  | false =>
      have greaterNumeric : (greater held newcomer).isNaN = false := by
        rcases greater_eq_or held newcomer with same | same <;> rwa [same]
      rw [Binary64.le_iff_leastUnits_le numberUndefined greaterNumeric,
        Binary64.le_iff_leastUnits_le numberUndefined heldNumeric,
        Binary64.le_iff_leastUnits_le numberUndefined newcomerNumeric,
        leastUnits_greater heldNumeric newcomerNumeric, le_max_iff]

end Axis

namespace Point

variable {point : Point}

theorem isNumeric_iff : point.isNumeric ↔ point.x.isNaN = false ∧ point.y.isNaN = false := by
  simp [isNumeric]

theorem isFinite_iff : point.isFinite ↔ point.x.isFinite ∧ point.y.isFinite := by
  simp [isFinite]

theorem isNumeric_of_isFinite (finite : point.isFinite) : point.isNumeric := by
  rcases isFinite_iff.mp finite with ⟨xFinite, yFinite⟩
  exact isNumeric_iff.mpr ⟨Binary64.isNaN_eq_false_of_isFinite xFinite,
    Binary64.isNaN_eq_false_of_isFinite yFinite⟩

end Point

namespace Box

variable {box : Box} {points : List Point} {point : Point}

theorem contains_iff :
    box.contains point ↔
      (box.min.x ≤ point.x ∧ point.x ≤ box.max.x) ∧
        (box.min.y ≤ point.y ∧ point.y ≤ box.max.y) := by
  simp only [contains, ge_iff_le, Bool.and_eq_true, decide_eq_true_eq]
  tauto

theorem singleton_contains (numeric : point.isNumeric) : (singleton point).contains point := by
  rcases Point.isNumeric_iff.mp numeric with ⟨xNumeric, yNumeric⟩
  rw [contains_iff, singleton, Binary64.le_iff_leastUnits_le xNumeric xNumeric,
    Binary64.le_iff_leastUnits_le yNumeric yNumeric]
  simp

theorem isNumeric_of_contains (within : box.contains point) : point.isNumeric := by
  rcases contains_iff.mp within with ⟨⟨afterLeft, _⟩, aboveBottom, _⟩
  exact Point.isNumeric_iff.mpr ⟨(Binary64.isNaN_eq_false_of_le afterLeft).2,
    (Binary64.isNaN_eq_false_of_le aboveBottom).2⟩

/-- Uniting two boxes keeps what is contained in one of them. -/
theorem contains_union {other : Box} (minNumeric : box.min.isNumeric)
    (maxNumeric : box.max.isNumeric) (otherMinNumeric : other.min.isNumeric)
    (otherMaxNumeric : other.max.isNumeric) (within : box.contains point ∨ other.contains point) :
    (box.union other).contains point := by
  rcases Point.isNumeric_iff.mp minNumeric with ⟨leftNumeric, bottomNumeric⟩
  rcases Point.isNumeric_iff.mp maxNumeric with ⟨rightNumeric, topNumeric⟩
  rcases Point.isNumeric_iff.mp otherMinNumeric with ⟨otherLeftNumeric, otherBottomNumeric⟩
  rcases Point.isNumeric_iff.mp otherMaxNumeric with ⟨otherRightNumeric, otherTopNumeric⟩
  rw [contains_iff, contains_iff] at within
  simp only [contains_iff, union, lesser_le_iff leftNumeric otherLeftNumeric,
    lesser_le_iff bottomNumeric otherBottomNumeric, le_greater_iff rightNumeric otherRightNumeric,
    le_greater_iff topNumeric otherTopNumeric]
  tauto

/-- Containing points is having their coordinates between the sides. -/
theorem between_of_contains (contains : ∀ point ∈ points, box.contains point) :
    (∀ x ∈ points.map Point.x, box.min.x ≤ x ∧ x ≤ box.max.x) ∧
      ∀ y ∈ points.map Point.y, box.min.y ≤ y ∧ y ≤ box.max.y := by
  constructor
  · rw [List.forall_mem_map]
    intro point pointMem
    exact (contains_iff.mp (contains point pointMem)).1
  · rw [List.forall_mem_map]
    intro point pointMem
    exact (contains_iff.mp (contains point pointMem)).2

/-- A box whose sides are coordinates of points lies within all boxes that contain these. -/
theorem IsHullOf.ofSides (contains : ∀ point ∈ points, box.contains point)
    (left : box.min.x ∈ points.map Point.x) (bottom : box.min.y ∈ points.map Point.y)
    (right : box.max.x ∈ points.map Point.x) (top : box.max.y ∈ points.map Point.y) :
    box.IsHullOf points := by
  refine ⟨contains, left, bottom, right, top, ?_⟩
  intro other otherContains
  rcases between_of_contains otherContains with ⟨xBetween, yBetween⟩
  rw [encloses, Bool.and_eq_true, contains_iff, contains_iff]
  exact ⟨⟨xBetween _ left, yBetween _ bottom⟩, ⟨xBetween _ right, yBetween _ top⟩⟩

/-- What is said of all coordinates is said of the sides. -/
theorem IsHullOf.sides {property : Float → Prop} (hull : box.IsHullOf points)
    (each : ∀ point ∈ points, property point.x ∧ property point.y) :
    (property box.min.x ∧ property box.min.y) ∧ property box.max.x ∧ property box.max.y := by
  have ofX : ∀ x ∈ points.map Point.x, property x :=
    List.forall_mem_map.mpr fun point pointMem => (each point pointMem).1
  have ofY : ∀ y ∈ points.map Point.y, property y :=
    List.forall_mem_map.mpr fun point pointMem => (each point pointMem).2
  exact ⟨⟨ofX _ hull.left, ofY _ hull.bottom⟩, ⟨ofX _ hull.right, ofY _ hull.top⟩⟩

theorem IsHullOf.isNumeric (hull : box.IsHullOf points) : ∀ point ∈ points, point.isNumeric :=
  fun point pointMem => isNumeric_of_contains (hull.contains point pointMem)

/-- The corners are no NaN, since the sides are coordinates of points that are contained. -/
theorem IsHullOf.corners_isNumeric (hull : box.IsHullOf points) :
    box.min.isNumeric ∧ box.max.isNumeric := by
  have numeric := hull.isNumeric
  have sides := @IsHullOf.sides box points (fun side => side.isNaN = false) hull
  simp only [Point.isNumeric_iff] at numeric ⊢
  exact sides numeric

theorem IsHullOf.corners_isFinite (hull : box.IsHullOf points)
    (finite : ∀ point ∈ points, point.isFinite) : box.min.isFinite ∧ box.max.isFinite := by
  have sides := @IsHullOf.sides box points (fun side => side.isFinite = true) hull
  simp only [Point.isFinite_iff] at finite ⊢
  exact sides finite

theorem isHullOf_singleton (numeric : point.isNumeric) : (singleton point).IsHullOf [point] := by
  refine .ofSides ?_ (by simp [singleton]) (by simp [singleton]) (by simp [singleton])
    (by simp [singleton])
  intro other otherMem
  rw [List.mem_singleton.mp otherMem]
  exact singleton_contains numeric

/-- A side taken over from one of two boxes is a coordinate of the points of both. -/
theorem chosen_side_mem {coordinate : Point → Float} {others : List Point}
    {side otherSide chosen : Float} (sideMem : side ∈ points.map coordinate)
    (otherSideMem : otherSide ∈ others.map coordinate)
    (choice : chosen = side ∨ chosen = otherSide) :
    chosen ∈ (points ++ others).map coordinate := by
  rw [List.map_append]
  rcases choice with rfl | rfl
  · exact List.mem_append_left _ sideMem
  · exact List.mem_append_right _ otherSideMem

/-- Two hulls united are the hull of all points. -/
theorem IsHullOf.union {other : Box} {others : List Point} (hull : box.IsHullOf points)
    (otherHull : other.IsHullOf others) : (box.union other).IsHullOf (points ++ others) := by
  rcases hull.corners_isNumeric with ⟨minNumeric, maxNumeric⟩
  rcases otherHull.corners_isNumeric with ⟨otherMinNumeric, otherMaxNumeric⟩
  have contains : ∀ point ∈ points ++ others, (box.union other).contains point := by
    intro point pointMem
    apply contains_union minNumeric maxNumeric otherMinNumeric otherMaxNumeric
    exact (List.mem_append.mp pointMem).imp (hull.contains point) (otherHull.contains point)
  apply IsHullOf.ofSides contains
  · exact chosen_side_mem hull.left otherHull.left (lesser_eq_or _ _)
  · exact chosen_side_mem hull.bottom otherHull.bottom (lesser_eq_or _ _)
  · exact chosen_side_mem hull.right otherHull.right (greater_eq_or _ _)
  · exact chosen_side_mem hull.top otherHull.top (greater_eq_or _ _)

theorem covering_concat (start : Point) (points : List Point) (last : Point) :
    covering start (points ++ [last]) = (covering start points).union (singleton last) := by
  rw [← insert_eq_union]
  simp [covering]

theorem isHullOf_covering {start : Point} (numeric : ∀ point ∈ start :: points, point.isNumeric) :
    (covering start points).IsHullOf (start :: points) := by
  -- Boxes are grown at the end of the way, so the induction is on the last point.
  induction points using List.reverseRecOn with
  | nil => exact isHullOf_singleton (numeric start (by simp))
  | append_singleton points last inductionHypothesis =>
      rw [← List.cons_append] at numeric ⊢
      have earlierNumeric : ∀ point ∈ start :: points, point.isNumeric :=
        fun point pointMem => numeric point (List.mem_append_left _ pointMem)
      have lastNumeric : last.isNumeric := numeric last (by simp)
      rw [covering_concat]
      exact (inductionHypothesis earlierNumeric).union (isHullOf_singleton lastNumeric)

end Box

end Lindenmayer
