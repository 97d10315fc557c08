import Lindenmayer.Geometry.Assembly
import Lindenmayer.Proofs.Binary64.Identity
import Lindenmayer.Proofs.Geometry.Hull

/-!
# Boxes do not remember how they were put together

Between equal numbers a side is taken from the newcomer. So uniting boxes is not commutative, as
the two zeros show, and no law of uniting says directly that order and grouping do not count.
But however points are covered, the box is their hull. To be the hull of points it only matters
which points these are; and hulls of the same points lie within each other, so that their sides
are the same up to the signs of zeros.
-/

namespace Lindenmayer

theorem sameNumber_of_le_of_le {number other : Float} (below : number ≤ other)
    (above : other ≤ number) : SameNumber number other :=
  Binary64.eq_or_zeros_of_le_of_le below above

theorem liesBetween_of_between {least greatest number : Float} {numbers : List Float}
    (leastMem : least ∈ numbers) (greatestMem : greatest ∈ numbers)
    (between : least ≤ number ∧ number ≤ greatest) : LiesBetween number numbers :=
  ⟨⟨least, leastMem, between.1⟩, greatest, greatestMem, between.2⟩

theorem between_of_liesBetween {least greatest number : Float} {numbers : List Float}
    (bounds : ∀ listed ∈ numbers, least ≤ listed ∧ listed ≤ greatest)
    (lies : LiesBetween number numbers) : least ≤ number ∧ number ≤ greatest := by
  rcases lies with ⟨⟨lower, lowerMem, below⟩, upper, upperMem, above⟩
  constructor
  · exact Binary64.le_trans (bounds lower lowerMem).1 below
  · exact Binary64.le_trans above (bounds upper upperMem).2

namespace Box

variable {box other : Box} {points others : List Point} {point : Point}

theorem IsHullOf.perm (hull : box.IsHullOf points) (perm : points.Perm others) :
    box.IsHullOf others := by
  apply IsHullOf.ofSides
  · intro point pointMem
    exact hull.contains point (perm.mem_iff.mpr pointMem)
  · exact (perm.map Point.x).mem_iff.mp hull.left
  · exact (perm.map Point.y).mem_iff.mp hull.bottom
  · exact (perm.map Point.x).mem_iff.mp hull.right
  · exact (perm.map Point.y).mem_iff.mp hull.top

theorem IsHullOf.sameExtent (hull : box.IsHullOf points) (otherHull : other.IsHullOf points) :
    box.SameExtent other := by
  have outside := hull.least other otherHull.contains
  have inside := otherHull.least box hull.contains
  simp only [encloses, Bool.and_eq_true, contains_iff] at outside inside
  rcases outside with ⟨⟨⟨left, _⟩, bottom, _⟩, ⟨_, right⟩, _, top⟩
  rcases inside with ⟨⟨⟨otherLeft, _⟩, otherBottom, _⟩, ⟨_, otherRight⟩, _, otherTop⟩
  constructor
  · exact sameNumber_of_le_of_le otherLeft left
  · exact sameNumber_of_le_of_le otherBottom bottom
  · exact sameNumber_of_le_of_le right otherRight
  · exact sameNumber_of_le_of_le top otherTop

theorem IsHullOf.contains_iff_liesBetween (hull : box.IsHullOf points) :
    box.contains point ↔
      LiesBetween point.x (points.map Point.x) ∧ LiesBetween point.y (points.map Point.y) := by
  rw [contains_iff]
  constructor
  · rintro ⟨betweenX, betweenY⟩
    constructor
    · exact liesBetween_of_between hull.left hull.right betweenX
    · exact liesBetween_of_between hull.bottom hull.top betweenY
  · rintro ⟨liesX, liesY⟩
    rcases between_of_contains hull.contains with ⟨xBetween, yBetween⟩
    constructor
    · exact between_of_liesBetween xBetween liesX
    · exact between_of_liesBetween yBetween liesY

end Box

namespace Assembly

theorem isHullOf_box {assembly : Assembly}
    (numeric : ∀ point ∈ assembly.parts.flatten, point.isNumeric) :
    assembly.box.IsHullOf assembly.parts.flatten := by
  induction assembly with
  | part first rest =>
      simp only [parts, List.flatten_singleton] at numeric ⊢
      exact Box.isHullOf_covering numeric
  | union left right leftHypothesis rightHypothesis =>
      simp only [parts, List.flatten_append, List.forall_mem_append] at numeric ⊢
      exact (leftHypothesis numeric.1).union (rightHypothesis numeric.2)

/--
Points without NaN are covered alike in every order and grouping: however the list of them is
rearranged and cut into parts, one part or several, and in whatever order and association the
boxes of the parts are united, the box has the same extent as the one grown along the list. It
contains what lies, on both axes, between listed coordinates.
-/
theorem box_independent {first : Point} {rest arranged : List Point} {cut : List (List Point)}
    {assembly : Assembly} (numeric : ∀ point ∈ first :: rest, point.isNumeric)
    (arrangement : arranged.Perm (first :: rest)) (cutting : cut.flatten = arranged)
    (order : assembly.parts.Perm cut) :
    assembly.box.SameExtent (.covering first rest) ∧
      ∀ point : Point, assembly.box.contains point ↔
        LiesBetween point.x ((first :: rest).map Point.x) ∧
          LiesBetween point.y ((first :: rest).map Point.y) := by
  have samePoints : assembly.parts.flatten.Perm (first :: rest) := by
    rw [← cutting] at arrangement
    exact order.flatten.trans arrangement
  have assembled : assembly.box.IsHullOf (first :: rest) := by
    apply Box.IsHullOf.perm _ samePoints
    apply isHullOf_box
    intro point pointMem
    exact numeric point (samePoints.mem_iff.mp pointMem)
  constructor
  · exact assembled.sameExtent (Box.isHullOf_covering numeric)
  · intro point
    exact assembled.contains_iff_liesBetween

/-- Points with zeros of both signs and with both infinities. -/
def landmarks : List Point :=
  [⟨-0.0, 2.0⟩, ⟨0.0, 1.0⟩, ⟨1.0 / 0.0, -1.0 / 0.0⟩, ⟨4.0, 0.5⟩]

/-- The landmarks in three parts, which are united from the back. -/
def landmarksInParts : Assembly :=
  .union (.union (.part ⟨4.0, 0.5⟩ [⟨1.0 / 0.0, -1.0 / 0.0⟩]) (.part ⟨0.0, 1.0⟩ []))
    (.part ⟨-0.0, 2.0⟩ [])

/-- The signs of zeros do depend on the order: the left sides are zeros of different signs here. -/
theorem box_independent_landmarks :
    (∀ point ∈ landmarks, point.isNumeric) ∧
      landmarksInParts.parts.reverse.flatten.Perm landmarks ∧
      landmarksInParts.parts.Perm landmarksInParts.parts.reverse ∧
      landmarksInParts.box.SameExtent (.covering ⟨-0.0, 2.0⟩ landmarks.tail) ∧
      landmarksInParts.box.contains ⟨3.0, 1.0⟩ ∧
      landmarksInParts.box.min.x ≠ (Box.covering ⟨-0.0, 2.0⟩ landmarks.tail).min.x := by
  have numeric : ∀ point ∈ landmarks, point.isNumeric := by decide +kernel
  -- The last two landmarks change places, and the parts are then taken in reverse order.
  have arrangement : landmarksInParts.parts.reverse.flatten.Perm landmarks :=
    .cons _ (.cons _ (.swap _ _ _))
  have order : landmarksInParts.parts.Perm landmarksInParts.parts.reverse :=
    (List.reverse_perm _).symm
  rcases box_independent numeric arrangement rfl order with ⟨sameExtent, contains_iff⟩
  have between : LiesBetween 3.0 (landmarks.map Point.x) ∧
      LiesBetween 1.0 (landmarks.map Point.y) := by
    decide +kernel
  refine ⟨numeric, arrangement, order, sameExtent, (contains_iff ⟨3.0, 1.0⟩).mpr between, ?_⟩
  decide +kernel

end Assembly

end Lindenmayer
