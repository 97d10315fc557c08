import Lindenmayer.Proofs.Geometry.Hull

/-!
# Boxes grown in portions

Growing a box along a list of points is the same as growing one box along the first part
of the list, another one along the rest, and uniting the two. The second box has to begin
where the first one ends, and the equality is one of boxes and not only of what is
contained: between equal numbers the later one is taken on both sides, so even the sign
of a zero is the same.

Without this preference taking the smaller number would be associative up to the sign of
zero only; and with a NaN in the middle it is not associative at all.
-/

namespace Lindenmayer

section Axis

variable {first second third : Float}

theorem lesser_self (number : Float) : lesser number number = number :=
  ite_self number

theorem greater_self (number : Float) : greater number number = number :=
  ite_self number

theorem lt_trans_of_numeric (firstNumeric : first.isNaN = false)
    (secondNumeric : second.isNaN = false) (thirdNumeric : third.isNaN = false)
    (firstLess : first < second) (secondLess : second < third) : first < third := by
  rw [Binary64.lt_iff_leastUnits_lt firstNumeric secondNumeric] at firstLess
  rw [Binary64.lt_iff_leastUnits_lt secondNumeric thirdNumeric] at secondLess
  rw [Binary64.lt_iff_leastUnits_lt firstNumeric thirdNumeric]
  exact firstLess.trans secondLess

/-- Of two numbers that differ, a third one differs from one at least. -/
theorem lt_or_lt_of_numeric (firstNumeric : first.isNaN = false)
    (secondNumeric : second.isNaN = false) (thirdNumeric : third.isNaN = false)
    (less : first < third) : first < second ∨ second < third := by
  rw [Binary64.lt_iff_leastUnits_lt firstNumeric thirdNumeric] at less
  rw [Binary64.lt_iff_leastUnits_lt firstNumeric secondNumeric,
    Binary64.lt_iff_leastUnits_lt secondNumeric thirdNumeric]
  omega

theorem lesser_assoc (firstNumeric : first.isNaN = false) (secondNumeric : second.isNaN = false)
    (thirdNumeric : third.isNaN = false) :
    lesser (lesser first second) third = lesser first (lesser second third) := by
  have less := lt_trans_of_numeric firstNumeric secondNumeric thirdNumeric
  have between := lt_or_lt_of_numeric firstNumeric secondNumeric thirdNumeric
  grind [lesser]

theorem greater_assoc (firstNumeric : first.isNaN = false) (secondNumeric : second.isNaN = false)
    (thirdNumeric : third.isNaN = false) :
    greater (greater first second) third = greater first (greater second third) := by
  have less := lt_trans_of_numeric thirdNumeric secondNumeric firstNumeric
  have between := lt_or_lt_of_numeric thirdNumeric secondNumeric firstNumeric
  grind [greater]

end Axis

namespace Box

def isNumeric (box : Box) : Bool :=
  box.min.isNumeric && box.max.isNumeric

theorem isNumeric_singleton {point : Point} (numeric : point.isNumeric) :
    (singleton point).isNumeric := by
  simp [isNumeric, singleton, numeric]

theorem isNumeric_covering {start : Point} {points : List Point}
    (numeric : ∀ point ∈ start :: points, point.isNumeric) : (covering start points).isNumeric := by
  rw [isNumeric, Bool.and_eq_true]
  exact (isHullOf_covering numeric).corners_isNumeric

theorem union_assoc {first second third : Box} (firstNumeric : first.isNumeric)
    (secondNumeric : second.isNumeric) (thirdNumeric : third.isNumeric) :
    (first.union second).union third = first.union (second.union third) := by
  simp only [isNumeric, Bool.and_eq_true, Point.isNumeric_iff] at *
  rcases firstNumeric with ⟨⟨firstLeft, firstBottom⟩, firstRight, firstTop⟩
  rcases secondNumeric with ⟨⟨secondLeft, secondBottom⟩, secondRight, secondTop⟩
  rcases thirdNumeric with ⟨⟨thirdLeft, thirdBottom⟩, thirdRight, thirdTop⟩
  simp only [union, lesser_assoc firstLeft secondLeft thirdLeft,
    lesser_assoc firstBottom secondBottom thirdBottom,
    greater_assoc firstRight secondRight thirdRight, greater_assoc firstTop secondTop thirdTop]

theorem union_self (box : Box) : box.union box = box := by
  simp only [union, lesser_self, greater_self]

/-- The point where a box ends can be covered once more. -/
theorem covering_union_last {start : Point} {points : List Point}
    (numeric : ∀ point ∈ start :: points, point.isNumeric) :
    (covering start points).union (singleton (points.getLastD start)) = covering start points := by
  induction points using List.reverseRecOn with
  | nil => exact union_self _
  | append_singleton points last _ =>
      rw [← List.cons_append] at numeric
      have lastNumeric : (singleton last).isNumeric := isNumeric_singleton (numeric last (by simp))
      have earlierNumeric : (covering start points).isNumeric :=
        isNumeric_covering fun point pointMem => numeric point (List.mem_append_left _ pointMem)
      rw [covering_concat, List.getLastD_concat,
        union_assoc earlierNumeric lastNumeric lastNumeric, union_self]

/-- A list of points may be covered in two portions, the second one from the end of the first. -/
theorem covering_append {start : Point} {front back : List Point}
    (numeric : ∀ point ∈ start :: (front ++ back), point.isNumeric) :
    covering start (front ++ back) =
      (covering start front).union (covering (front.getLastD start) back) := by
  induction back using List.reverseRecOn with
  | nil =>
      rw [List.append_nil] at numeric ⊢
      exact (covering_union_last numeric).symm
  | append_singleton back last inductionHypothesis =>
      have earlierNumeric : ∀ point ∈ start :: (front ++ back), point.isNumeric := by
        intro point pointMem
        exact numeric point (by grind)
      have frontNumeric : (covering start front).isNumeric :=
        isNumeric_covering fun point pointMem => numeric point (by grind)
      have backNumeric : (covering (front.getLastD start) back).isNumeric := by
        apply isNumeric_covering
        intro point pointMem
        have meeting : front.getLastD start ∈ start :: front := List.getLastD_mem_cons
        exact numeric point (by grind)
      have lastNumeric : (singleton last).isNumeric := isNumeric_singleton (numeric last (by simp))
      rw [← List.append_assoc, covering_concat, covering_concat, inductionHypothesis earlierNumeric,
        union_assoc frontNumeric backNumeric lastNumeric]

end Box

end Lindenmayer
