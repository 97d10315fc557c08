import Lindenmayer.Proofs.Turtle.Agreement
import Lindenmayer.Turtle.Brackets
import Lindenmayer.Turtle.Drawn

/-!
# Brackets save and restore

That a closing bracket belongs to the nearest opening one that is still open is a fact about
lists of operations. It is proved here at the end of the list, where one more operation opens
a bracket, closes the innermost one or changes nothing, and what has come since the innermost
one was opened is balanced.

A pen that has saved nothing then keeps, for every bracket that is still open, the pose in
which it was opened, and nothing else. What a turtle does at a bracket follows from this for
every kind of turtle with a pen.
-/

namespace Lindenmayer

namespace Operation

variable {operations inside others : List Operation} {operation : Operation}
  {opening closing later : Nat}

/-! ## Balance -/

theorem isBalanced_nil : IsBalanced [] := by decide

theorem IsBalanced.append (first : IsBalanced inside) (second : IsBalanced others) :
    IsBalanced (inside ++ others) := by
  refine ⟨?_, ?_⟩
  · rw [List.count_append, List.count_append, first.1, second.1]
  · intro front isPrefix
    have firstBelow := first.2 _ (List.take_prefix front.length inside)
    have secondBelow := second.2 _ (List.take_prefix (front.length - inside.length) others)
    rw [List.prefix_iff_eq_take.mp isPrefix, List.take_append, List.count_append,
      List.count_append]
    omega

theorem isBalanced_singleton (notPush : operation ≠ .push) (notPop : operation ≠ .pop) :
    IsBalanced [operation] := by
  cases operation with
  | push => exact absurd rfl notPush
  | pop => exact absurd rfl notPop
  | _ => decide

/-- Brackets around balanced operations are balanced. -/
theorem IsBalanced.enclosed (balanced : IsBalanced inside) :
    IsBalanced (.push :: (inside ++ [.pop])) := by
  refine ⟨by simp [balanced.1], ?_⟩
  intro front isPrefix
  rcases List.prefix_cons_iff.mp isPrefix with rfl | ⟨further, rfl, within⟩
  · exact Nat.le_refl 0
  · rcases List.prefix_concat_iff.mp within with rfl | within
    · simp [balanced.1]
    · have below := balanced.2 further within
      simp only [List.count_cons_self, List.count_cons_of_ne (by decide : push ≠ pop)]
      omega

theorem drop_eq_between (earlier : opening < later) (found : operations[later]? = some operation) :
    operations.drop (opening + 1) =
      (operations.take later).drop (opening + 1) ++ operation :: operations.drop (later + 1) := by
  rcases List.getElem?_eq_some_iff.mp found with ⟨short, rfl⟩
  rw [← List.drop_eq_getElem_cons short, ← List.drop_append_of_le_length,
    List.take_append_drop]
  simp only [List.length_take]
  omega

/-- Before an open bracket that leads to balance there is none that does. -/
theorem not_isBalanced_of_later (earlier : opening < later)
    (found : operations[later]? = some .push)
    (balanced : IsBalanced (operations.drop (later + 1))) :
    ¬IsBalanced (operations.drop (opening + 1)) := by
  rw [drop_eq_between earlier found]
  rintro ⟨level, neverBelow⟩
  have below := neverBelow _ (List.prefix_append _ _)
  simp only [List.count_append, List.count_cons_self,
    List.count_cons_of_ne (by decide : push ≠ pop), balanced.1] at level
  omega

/-- After a closed bracket there is no balance. -/
theorem Matches.not_isBalanced (matching : Matches operations opening closing) :
    ¬IsBalanced (operations.drop (opening + 1)) := by
  rcases matching with ⟨earlier, _, found, balanced⟩
  rw [drop_eq_between earlier found]
  intro further
  have below := further.2 ((operations.take closing).drop (opening + 1) ++ [.pop]) (by simp)
  simp only [List.count_append, List.count_singleton_self, List.count_cons_of_ne
    (by decide : pop ≠ push), balanced.1, List.count_nil] at below
  omega

/-! ## One operation more -/

theorem Matches.lt_length (matching : Matches operations opening closing) :
    closing < operations.length :=
  (List.getElem?_eq_some_iff.mp matching.2.2.1).1

theorem lt_length_of_found (found : operations[opening]? = some operation) :
    opening < operations.length :=
  (List.getElem?_eq_some_iff.mp found).1

/-- An operation at the end may close a bracket and leaves all other matches alone. -/
theorem matches_concat_iff :
    Matches (operations ++ [operation]) opening closing ↔
      Matches operations opening closing ∨
        closing = operations.length ∧ operation = .pop ∧ operations[opening]? = some .push ∧
          IsBalanced (operations.drop (opening + 1)) := by
  rcases Nat.lt_trichotomy closing operations.length with before | rfl | after
  · -- Up to the closing bracket nothing is new.
    simp only [Nat.ne_of_lt before, false_and, or_false, Matches]
    apply and_congr_right
    intro earlier
    rw [List.getElem?_append_left (earlier.trans before), List.getElem?_append_left before,
      List.take_append_of_le_length before.le]
  · have notMatches : ¬Matches operations opening operations.length :=
      fun matching => Nat.lt_irrefl _ matching.lt_length
    simp only [notMatches, false_or, true_and]
    simp only [Matches, List.getElem?_concat_length, Option.some.injEq, List.take_left']
    constructor
    · rintro ⟨earlier, found, isPop, balanced⟩
      rw [List.getElem?_append_left earlier] at found
      exact ⟨isPop, found, balanced⟩
    · rintro ⟨isPop, found, balanced⟩
      have earlier := lt_length_of_found found
      refine ⟨earlier, ?_, isPop, balanced⟩
      rwa [List.getElem?_append_left earlier]
  · have notMatches : ¬Matches operations opening closing :=
      fun matching => Nat.lt_asymm after matching.lt_length
    have notLonger : ¬Matches (operations ++ [operation]) opening closing := by
      intro matching
      have short := matching.lt_length
      simp only [List.length_append, List.length_singleton] at short
      omega
    simp [notMatches, notLonger, (Nat.ne_of_lt after).symm]

theorem isUnmatched_concat_iff (earlier : opening < operations.length) :
    IsUnmatched (operations ++ [operation]) opening ↔
      IsUnmatched operations opening ∧
        ¬(operation = .pop ∧ IsBalanced (operations.drop (opening + 1))) := by
  simp only [IsUnmatched, List.getElem?_append_left earlier, matches_concat_iff, and_assoc]
  apply and_congr_right
  intro found
  constructor
  · intro waits
    refine ⟨fun closing short matching => waits closing (by simp; omega) (.inl matching), ?_⟩
    rintro ⟨isPop, balanced⟩
    exact waits operations.length (by simp) (.inr ⟨rfl, isPop, found, balanced⟩)
  · rintro ⟨waits, notClosed⟩ closing _ (matching | ⟨_, isPop, _, balanced⟩)
    · exact waits closing matching.lt_length matching
    · exact notClosed ⟨isPop, balanced⟩

theorem isUnmatched_length_iff :
    IsUnmatched (operations ++ [operation]) operations.length ↔ operation = .push := by
  simp only [IsUnmatched, List.getElem?_concat_length, Option.some.injEq, and_iff_left_iff_imp]
  rintro _ closing short ⟨later, _⟩
  simp only [List.length_append, List.length_singleton] at short
  omega

theorem unmatched_concat (operations : List Operation) (operation : Operation) :
    unmatched (operations ++ [operation]) =
      (unmatched operations).filter (fun opening =>
        ¬(operation = .pop ∧ IsBalanced (operations.drop (opening + 1)))) ++
      if operation = .push then [operations.length] else [] := by
  simp only [unmatched, List.length_append, List.length_singleton, List.range_succ,
    List.filter_append, List.filter_filter, List.filter_singleton, isUnmatched_length_iff]
  congr 1
  · apply List.filter_congr
    intro opening member
    simp [isUnmatched_concat_iff (List.mem_range.mp member), Bool.and_comm]
  · simp

theorem unmatched_concat_push (operations : List Operation) :
    unmatched (operations ++ [.push]) = unmatched operations ++ [operations.length] := by
  simp [unmatched_concat]

theorem unmatched_concat_of_ne (operations : List Operation) (notPush : operation ≠ .push)
    (notPop : operation ≠ .pop) : unmatched (operations ++ [operation]) = unmatched operations := by
  simp [unmatched_concat, notPush, notPop]

theorem mem_unmatched_iff : opening ∈ unmatched operations ↔ IsUnmatched operations opening := by
  simp only [unmatched, List.mem_filter, List.mem_range, decide_eq_true_eq, and_iff_right_iff_imp]
  exact fun waits => lt_length_of_found waits.1

theorem pairwise_unmatched (operations : List Operation) :
    (unmatched operations).Pairwise (· < ·) :=
  List.pairwise_lt_range.filter _

/-! ## The innermost open bracket -/

section Innermost

variable {outer : List Nat} {last : Nat}

theorem lt_of_mem_outer (split : unmatched operations = outer ++ [last])
    (member : opening ∈ outer) : opening < last := by
  have increasing := pairwise_unmatched operations
  rw [split, List.pairwise_append] at increasing
  exact increasing.2.2 opening member last (by simp)

theorem unmatched_concat_pop_of_balanced (split : unmatched operations = outer ++ [last])
    (balanced : IsBalanced (operations.drop (last + 1))) :
    unmatched (operations ++ [.pop]) = outer := by
  have waits : IsUnmatched operations last := mem_unmatched_iff.mp (by simp [split])
  have stillOpen : ∀ opening ∈ outer, ¬IsBalanced (operations.drop (opening + 1)) :=
    fun opening member => not_isBalanced_of_later (lt_of_mem_outer split member) waits.1 balanced
  rw [unmatched_concat, split]
  simpa [balanced] using stillOpen

/--
What follows the innermost open bracket is balanced, and the other open brackets have been
open when it was opened.
-/
theorem balanced_of_unmatched (split : unmatched operations = outer ++ [last]) :
    IsBalanced (operations.drop (last + 1)) ∧ unmatched (operations.take last) = outer := by
  induction size : operations.length using Nat.strong_induction_on
    generalizing operations outer last with
  | _ bound inductionHypothesis =>
      rcases operations.eq_nil_or_concat' with rfl | ⟨earlier, operation, rfl⟩
      · simp [unmatched] at split
      have shorter : earlier.length < bound := by simp [← size]
      by_cases isPush : operation = .push
      · -- The bracket just opened is the innermost one.
        rw [isPush, unmatched_concat_push] at split
        rcases List.append_inj' split rfl with ⟨rfl, ⟨⟩⟩
        rw [List.drop_eq_nil_of_le (by simp), List.take_left]
        exact ⟨isBalanced_nil, rfl⟩
      by_cases isPop : operation = .pop
      · subst isPop
        rcases (unmatched earlier).eq_nil_or_concat' with none | ⟨further, closed, earlierSplit⟩
        · simp [unmatched_concat, none] at split
        rcases inductionHypothesis _ shorter earlierSplit rfl with ⟨closedBalanced, sameFurther⟩
        rw [unmatched_concat_pop_of_balanced earlierSplit closedBalanced] at split
        have waits : IsUnmatched earlier closed := mem_unmatched_iff.mp (by simp [earlierSplit])
        have isBefore : last < closed := lt_of_mem_outer earlierSplit (by simp [split])
        have inRange := lt_length_of_found waits.1
        have beforeShorter : (earlier.take closed).length < bound := by
          rw [List.length_take]
          omega
        -- The bracket is closed now, and before it was opened another one was the innermost.
        rcases inductionHypothesis _ beforeShorter (sameFurther.trans split) rfl with
          ⟨lastBalanced, sameOuter⟩
        rw [List.take_take, Nat.min_eq_left isBefore.le] at sameOuter
        rw [List.drop_append_of_le_length (by omega), List.take_append_of_le_length (by omega),
          drop_eq_between isBefore waits.1, List.append_assoc, List.cons_append]
        exact ⟨lastBalanced.append closedBalanced.enclosed, sameOuter⟩
      · rw [unmatched_concat_of_ne earlier isPush isPop] at split
        rcases inductionHypothesis _ shorter split rfl with ⟨balanced, sameOuter⟩
        have waits : IsUnmatched earlier last := mem_unmatched_iff.mp (by simp [split])
        have inRange := lt_length_of_found waits.1
        rw [List.drop_append_of_le_length (by omega), List.take_append_of_le_length (by omega)]
        exact ⟨balanced.append (isBalanced_singleton isPush isPop), sameOuter⟩

theorem unmatched_concat_pop (operations : List Operation) :
    unmatched (operations ++ [.pop]) = (unmatched operations).dropLast := by
  rcases (unmatched operations).eq_nil_or_concat' with none | ⟨outer, last, split⟩
  · simp [unmatched_concat, none]
  · rw [unmatched_concat_pop_of_balanced split (balanced_of_unmatched split).1, split,
      List.dropLast_concat]

/-- Where a bracket is closed, it is the innermost one of those open by then, … -/
theorem Matches.unmatched_take (matching : Matches operations opening closing) :
    ∃ outer, unmatched (operations.take closing) = outer ++ [opening] := by
  rcases matching with ⟨earlier, found, isPop, balanced⟩
  have foundBefore : (operations.take closing)[opening]? = some .push := by
    rwa [List.getElem?_take_of_lt earlier]
  have waits : opening ∈ unmatched (operations.take closing) :=
    mem_unmatched_iff.mpr ⟨foundBefore, fun _ _ matching => matching.not_isBalanced balanced⟩
  rcases (unmatched (operations.take closing)).eq_nil_or_concat' with none | ⟨outer, last, split⟩
  · simp [none] at waits
  refine ⟨outer, ?_⟩
  rw [split] at waits ⊢
  rcases List.mem_append.mp waits with isOuter | isLast
  · have lastFound : IsUnmatched (operations.take closing) last :=
      mem_unmatched_iff.mp (by simp [split])
    exact absurd balanced (not_isBalanced_of_later (lt_of_mem_outer split isOuter) lastFound.1
      (balanced_of_unmatched split).1)
  · rw [List.mem_singleton.mp isLast]

/-- … and the innermost one is closed where a bracket is closed. -/
theorem matches_of_unmatched_take (isPop : operations[closing]? = some .pop)
    (split : unmatched (operations.take closing) = outer ++ [last]) :
    Matches operations last closing := by
  have waits : IsUnmatched (operations.take closing) last := mem_unmatched_iff.mp (by simp [split])
  have earlier : last < closing :=
    (lt_length_of_found waits.1).trans_le (List.length_take_le closing operations)
  have found := waits.1
  rw [List.getElem?_take_of_lt earlier] at found
  exact ⟨earlier, found, isPop, (balanced_of_unmatched split).1⟩

end Innermost

/-- A bracket is closed by closing the nearest one that is still open. -/
theorem matches_iff_nearest :
    Matches operations opening closing ↔
      operations[closing]? = some .pop ∧ IsUnmatched (operations.take closing) opening ∧
        ∀ other, IsUnmatched (operations.take closing) other → other ≤ opening := by
  constructor
  · intro matching
    rcases matching.unmatched_take with ⟨outer, split⟩
    refine ⟨matching.2.2.1, mem_unmatched_iff.mp (by simp [split]), ?_⟩
    intro other waits
    rw [← mem_unmatched_iff, split, List.mem_append, List.mem_singleton] at waits
    rcases waits with isOuter | rfl
    · exact (lt_of_mem_outer split isOuter).le
    · exact Nat.le_refl _
  · rintro ⟨isPop, waits, latest⟩
    rcases (unmatched (operations.take closing)).eq_nil_or_concat' with none | ⟨outer, last, split⟩
    · simp [none, ← mem_unmatched_iff] at waits
    have lastWaits : IsUnmatched (operations.take closing) last :=
      mem_unmatched_iff.mp (by simp [split])
    have notLater : opening ≤ last := by
      rw [← mem_unmatched_iff, split, List.mem_append, List.mem_singleton] at waits
      exact waits.elim (fun isOuter => (lt_of_mem_outer split isOuter).le) Nat.le_of_eq
    rw [Nat.le_antisymm notLater (latest last lastWaits)]
    exact matches_of_unmatched_take isPop split

end Operation

/-! ## Pens -/

namespace Pen

open Operation (IsBalanced Matches unmatched)

variable {pen : Pen} {operations inside : List Operation}

def apply (pen : Pen) (operation : Operation) : Pen :=
  (TurtleCall.ofOperation operation).onPen pen

def applyAll (pen : Pen) (operations : List Operation) : Pen :=
  operations.foldl apply pen

theorem applyAll_concat (pen : Pen) (operations : List Operation) (operation : Operation) :
    pen.applyAll (operations ++ [operation]) = (pen.applyAll operations).apply operation :=
  List.foldl_concat ..

theorem apply_pop_of_nil (nothing : pen.saved = []) : pen.apply .pop = pen := by
  change pen.pop?.getD pen = pen
  rw [pen.pop?_eq_none_iff.mpr nothing, Option.getD_none]

theorem apply_pop_of_cons {pose : Pose} {earlier : List Pose} (some : pen.saved = pose :: earlier) :
    pen.apply .pop = { pen with pose, saved := earlier } := by
  change pen.pop?.getD pen = _
  simp only [pop?, some, Option.getD_some]

theorem units_apply (pen : Pen) (operation : Operation) :
    (pen.apply operation).units = pen.units := by
  cases operation with
  | pop =>
      cases saved : pen.saved with
      | nil => rw [apply_pop_of_nil saved]
      | cons pose earlier => rw [apply_pop_of_cons saved]
  | _ => rfl

theorem units_applyAll (pen : Pen) (operations : List Operation) :
    (pen.applyAll operations).units = pen.units := by
  induction operations using List.reverseRecOn with
  | nil => rfl
  | append_singleton earlier operation inductionHypothesis =>
      rw [applyAll_concat, units_apply, inductionHypothesis]

theorem saved_apply_of_ne {operation : Operation} (notPush : operation ≠ .push)
    (notPop : operation ≠ .pop) : (pen.apply operation).saved = pen.saved := by
  cases operation with
  | push => exact absurd rfl notPush
  | pop => exact absurd rfl notPop
  | _ => rfl

theorem saved_apply_pop (pen : Pen) : (pen.apply .pop).saved = pen.saved.tail := by
  cases saved : pen.saved with
  | nil => rw [apply_pop_of_nil saved, saved, List.tail_nil]
  | cons pose earlier => rw [apply_pop_of_cons saved, List.tail_cons]

/-- The poses saved are those in which the brackets that are still open have been opened. -/
theorem saved_applyAll (nothing : pen.saved = []) (operations : List Operation) :
    (pen.applyAll operations).saved =
      ((unmatched operations).map fun opening =>
        (pen.applyAll (operations.take opening)).pose).reverse := by
  induction operations using List.reverseRecOn with
  | nil => exact nothing
  | append_singleton earlier operation inductionHypothesis =>
      have asBefore : ∀ opening ∈ unmatched earlier,
          (pen.applyAll ((earlier ++ [operation]).take opening)).pose =
            (pen.applyAll (earlier.take opening)).pose := by
        intro opening member
        have inRange := Operation.lt_length_of_found (Operation.mem_unmatched_iff.mp member).1
        rw [List.take_append_of_le_length inRange.le]
      rw [applyAll_concat]
      by_cases isPush : operation = .push
      · subst isPush
        change (pen.applyAll earlier).pose :: (pen.applyAll earlier).saved = _
        rw [Operation.unmatched_concat_push, List.map_append, List.map_congr_left asBefore,
          inductionHypothesis]
        simp
      by_cases isPop : operation = .pop
      · subst isPop
        have fewer : ∀ opening ∈ (unmatched earlier).dropLast, opening ∈ unmatched earlier :=
          fun opening => List.mem_of_mem_dropLast
        rw [saved_apply_pop, inductionHypothesis, Operation.unmatched_concat_pop,
          List.map_congr_left fun opening member => asBefore opening (fewer opening member),
          List.tail_reverse, List.map_dropLast]
      · rw [saved_apply_of_ne isPush isPop, inductionHypothesis,
          Operation.unmatched_concat_of_ne earlier isPush isPop, List.map_congr_left asBefore]

/-- Operations that never restore more than they have saved leave alone what was saved before. -/
theorem exists_saved_applyAll (pen : Pen)
    (neverBelow : ∀ front, front <+: inside → front.count .pop ≤ front.count .push) :
    ∃ newer, (pen.applyAll inside).saved = newer ++ pen.saved ∧
      newer.length + inside.count .pop = inside.count .push := by
  induction inside using List.reverseRecOn with
  | nil => exact ⟨[], rfl, rfl⟩
  | append_singleton earlier operation inductionHypothesis =>
      rcases inductionHypothesis fun front isPrefix =>
        neverBelow front (isPrefix.trans (List.prefix_append _ _)) with ⟨newer, saved, level⟩
      have below := neverBelow _ (List.prefix_refl _)
      rw [List.count_append, List.count_append] at below ⊢
      rw [applyAll_concat]
      by_cases isPush : operation = .push
      · subst isPush
        refine ⟨(pen.applyAll earlier).pose :: newer, ?_, ?_⟩
        · change _ :: (pen.applyAll earlier).saved = _
          rw [saved, List.cons_append]
        · simp
          omega
      by_cases isPop : operation = .pop
      · subst isPop
        cases newer with
        | nil =>
            simp at level below
            omega
        | cons pose newer =>
            refine ⟨newer, by rw [saved_apply_pop, saved, List.cons_append, List.tail_cons], ?_⟩
            simp at level ⊢
            omega
      · refine ⟨newer, by rw [saved_apply_of_ne isPush isPop, saved], ?_⟩
        simp [isPush, isPop, level]

/-- Balanced operations between brackets lead back to where they have begun. -/
theorem applyAll_enclosed (pen : Pen) (balanced : IsBalanced inside) :
    pen.applyAll (.push :: (inside ++ [.pop])) = pen := by
  rcases exists_saved_applyAll pen.push balanced.2 with ⟨newer, saved, level⟩
  have sameNumber := balanced.1
  have none : newer = [] := List.eq_nil_of_length_eq_zero (by omega)
  rw [none, List.nil_append] at saved
  have sameUnits := units_applyAll pen.push inside
  change pen.push.applyAll (inside ++ [.pop]) = pen
  rw [applyAll_concat, apply_pop_of_cons saved]
  exact Pen.ext rfl sameUnits rfl

end Pen

/-! ## Anything with a pen -/

section

open Operation (IsBalanced Matches IsUnmatched unmatched)

/-- Whether what has a pen saves and restores poses at the brackets among some operations. -/
structure ObeysBrackets {α : Type} (apply : α → Operation → α) (pen : α → Pen) (start : α)
    (operations : List Operation) : Prop where
  /-- A bracket that closes one leads back to the pose in which that was opened. -/
  restored : ∀ opening closing, Matches operations opening closing →
    (pen ((operations.take (closing + 1)).foldl apply start)).pose =
      (pen ((operations.take opening).foldl apply start)).pose
  /-- A bracket that closes none has no effect at all. -/
  stray : ∀ closing, operations[closing]? = some .pop →
    (∀ opening, ¬Matches operations opening closing) →
      (operations.take (closing + 1)).foldl apply start =
        (operations.take closing).foldl apply start
  depth : ∀ count, (pen ((operations.take count).foldl apply start)).depth =
    (unmatched (operations.take count)).length
  units : ∀ count, (pen ((operations.take count).foldl apply start)).units = (pen start).units

namespace ObeysBrackets

variable {α : Type} {apply : α → Operation → α} {pen : α → Pen}

theorem pen_foldl (moves : ∀ state operation, pen (apply state operation) =
      (pen state).apply operation) (start : α) (operations : List Operation) :
    pen (operations.foldl apply start) = (pen start).applyAll operations := by
  induction operations using List.reverseRecOn with
  | nil => rfl
  | append_singleton earlier operation inductionHypothesis =>
      rw [List.foldl_concat, moves, inductionHypothesis, Pen.applyAll_concat]

/-- It is enough that operations move the pen, and that nothing happens with nothing to restore. -/
theorem of_moves (moves : ∀ state operation, pen (apply state operation) =
      (pen state).apply operation)
    (idle : ∀ state, (pen state).saved = [] → apply state .pop = state) {start : α}
    (nothing : (pen start).saved = []) (operations : List Operation) :
    ObeysBrackets apply pen start operations where
  restored opening closing matching := by
    rcases matching.unmatched_take with ⟨outer, split⟩
    have saved := Pen.saved_applyAll nothing (operations.take closing)
    rw [split, List.map_append, List.reverse_append, List.map_singleton, List.reverse_singleton,
      List.singleton_append, List.take_take, Nat.min_eq_left matching.1.le] at saved
    rw [List.take_add_one, matching.2.2.1, pen_foldl moves, pen_foldl moves, Option.toList_some,
      Pen.applyAll_concat, Pen.apply_pop_of_cons saved]
  stray closing isPop notClosing := by
    have noneOpen : unmatched (operations.take closing) = [] := by
      rcases (unmatched (operations.take closing)).eq_nil_or_concat' with
        none | ⟨outer, last, split⟩
      · exact none
      · exact absurd (Operation.matches_of_unmatched_take isPop split) (notClosing last)
    have noneSaved : (pen ((operations.take closing).foldl apply start)).saved = [] := by
      rw [pen_foldl moves, Pen.saved_applyAll nothing, noneOpen, List.map_nil, List.reverse_nil]
    rw [List.take_add_one, isPop, Option.toList_some, List.foldl_concat, idle _ noneSaved]
  depth count := by
    rw [pen_foldl moves, Pen.depth, Pen.saved_applyAll nothing, List.length_reverse,
      List.length_map]
  units count := by rw [pen_foldl moves, Pen.units_applyAll]

end ObeysBrackets

theorem CarriesPen.apply {τ : Type} [Turtle τ] {pen : τ → Pen} (carries : CarriesPen pen)
    (turtle : τ) (operation : Operation) :
    pen (Turtle.apply turtle operation) = (pen turtle).apply operation :=
  carries.followsPen.apply turtle operation

theorem CarriesPen.position_congr {τ : Type} [Turtle τ] {pen : τ → Pen}
    (carries : CarriesPen pen) {turtle other : τ} (samePen : pen turtle = pen other) :
    Turtle.position turtle = Turtle.position other := by
  rw [carries.followsPen.position, samePen, carries.followsPen.position]

/-- Turtles with equal pens are asked to draw the same segments. -/
theorem CarriesPen.segments_congr {τ : Type} [Turtle τ] {pen : τ → Pen}
    (carries : CarriesPen pen) {turtle other : τ} (samePen : pen turtle = pen other)
    (calls : List TurtleCall) :
    TurtleCall.segments turtle calls = TurtleCall.segments other calls := by
  induction calls generalizing turtle other with
  | nil => rfl
  | cons call rest inductionHypothesis =>
      have sameNext : pen (call.perform turtle) = pen (call.perform other) := by
        rw [carries.perform, samePen, carries.perform]
      cases call with
      | draw =>
          have sameStart : Turtle.position turtle = Turtle.position other :=
            carries.position_congr samePen
          have sameFinish : Turtle.position (Turtle.draw turtle) =
              Turtle.position (Turtle.draw other) := carries.position_congr sameNext
          simp only [TurtleCall.segments, sameStart, sameFinish]
          exact congrArg _ (inductionHypothesis sameNext)
      | _ => exact inductionHypothesis sameNext

/-- Whether turtles that carry a pen go on and draw as if a detour had not been among operations. -/
structure ForgetsDetour {τ : Type} [Turtle τ] (pen : τ → Pen) (turtle : τ)
    (front detour back : List Operation) : Prop where
  pen : pen (Turtle.applyAll turtle (front ++ detour ++ back)) =
    pen (Turtle.applyAll turtle (front ++ back))
  segments : TurtleCall.segments (Turtle.applyAll turtle (front ++ detour))
      (back.map TurtleCall.ofOperation) =
    TurtleCall.segments (Turtle.applyAll turtle front) (back.map TurtleCall.ofOperation)

theorem Pen.applyAll_detour (pen : Pen) {inside : List Operation} (balanced : IsBalanced inside)
    (front back : List Operation) :
    pen.applyAll (front ++ .push :: (inside ++ [.pop]) ++ back) = pen.applyAll (front ++ back) := by
  have returned := Pen.applyAll_enclosed (pen.applyAll front) balanced
  simp only [Pen.applyAll, List.foldl_append] at returned ⊢
  rw [returned]

theorem CarriesPen.forgetsDetour {τ : Type} [Turtle τ] {pen : τ → Pen} (carries : CarriesPen pen)
    (turtle : τ) {inside : List Operation} (balanced : IsBalanced inside)
    (front back : List Operation) :
    ForgetsDetour pen turtle front (.push :: (inside ++ [.pop])) back where
  pen := by
    have forgotten := (pen turtle).applyAll_detour balanced front back
    rwa [← ObeysBrackets.pen_foldl carries.apply, ← ObeysBrackets.pen_foldl carries.apply]
      at forgotten
  segments := by
    have forgotten := (pen turtle).applyAll_detour balanced front []
    rw [← ObeysBrackets.pen_foldl carries.apply, ← ObeysBrackets.pen_foldl carries.apply,
      List.append_nil, List.append_nil] at forgotten
    exact carries.segments_congr forgotten _

theorem SilentTurtle.apply_pop_of_nil (turtle : SilentTurtle) (nothing : turtle.pen.saved = []) :
    Turtle.apply turtle .pop = turtle := by
  change { turtle with pen := turtle.pen.apply .pop } = turtle
  rw [Pen.apply_pop_of_nil nothing]

theorem TracingTurtle.apply_pop_of_nil {σ : Type} [PathSink σ] (turtle : TracingTurtle σ)
    (nothing : turtle.pen.saved = []) : Turtle.apply turtle .pop = turtle := by
  change turtle.pop = turtle
  simp only [TracingTurtle.pop, turtle.pen.pop?_eq_none_iff.mpr nothing]

/--
A closing bracket belongs to the nearest opening one before it that is still open. At a bracket
that closes one, a pen and both kinds of turtle take up the pose in which that was opened; at
one that closes none they do nothing, and send nothing; the number of poses saved is that of
the brackets still open; the units stay. Balanced operations between two brackets might
as well be missing, wherever they stand: the pen is the same ever after, and so is what is drawn.
-/
theorem Operation.brackets_save_and_restore :
    (∀ (operations : List Operation) (opening closing : Nat),
      Matches operations opening closing ↔
        operations[closing]? = some .pop ∧ IsUnmatched (operations.take closing) opening ∧
          ∀ other, IsUnmatched (operations.take closing) other → other ≤ opening) ∧
    (∀ operations : List Operation,
      (∀ pen : Pen, pen.saved = [] → ObeysBrackets Pen.apply id pen operations) ∧
      (∀ turtle : SilentTurtle, turtle.pen.saved = [] →
        ObeysBrackets Turtle.apply SilentTurtle.pen turtle operations) ∧
      ∀ (σ : Type) [PathSink σ] (turtle : TracingTurtle σ), turtle.pen.saved = [] →
        ObeysBrackets Turtle.apply TracingTurtle.pen turtle operations) ∧
    ∀ front inside back : List Operation, IsBalanced inside →
      let detour := .push :: (inside ++ [.pop])
      (∀ pen : Pen, pen.applyAll (front ++ detour ++ back) = pen.applyAll (front ++ back)) ∧
      (∀ turtle : SilentTurtle, ForgetsDetour SilentTurtle.pen turtle front detour back) ∧
      ∀ (σ : Type) [PathSink σ] (turtle : TracingTurtle σ),
        ForgetsDetour TracingTurtle.pen turtle front detour back := by
  refine ⟨fun _ _ _ => matches_iff_nearest, ?_, ?_⟩
  · intro operations
    refine ⟨?_, ?_, ?_⟩
    · intro pen nothing
      exact .of_moves (fun _ _ => rfl) (fun _ => Pen.apply_pop_of_nil) nothing operations
    · intro turtle nothing
      exact .of_moves SilentTurtle.carriesPen.apply SilentTurtle.apply_pop_of_nil nothing operations
    · intro σ _ turtle nothing
      exact .of_moves TracingTurtle.carriesPen.apply TracingTurtle.apply_pop_of_nil nothing
        operations
  · intro front inside back balanced detour
    refine ⟨?_, ?_, ?_⟩
    · intro pen
      exact pen.applyAll_detour balanced front back
    · intro turtle
      exact SilentTurtle.carriesPen.forgetsDetour turtle balanced front back
    · intro σ _ turtle
      exact TracingTurtle.carriesPen.forgetsDetour turtle balanced front back

/-- A branch on a branch, and one bracket too many. -/
def Operation.branches : List Operation :=
  [.pop, .draw, .push, .turnLeft, .push, .draw, .pop, .draw, .pop, .pop, .push, .draw]

theorem Operation.brackets_save_and_restore_branches :
    let turtle : TracingTurtle (Array PathCommand) := .standard #[]
    let after (count : Nat) := (branches.take count).foldl Turtle.apply turtle
    IsBalanced [.turnLeft, .push, .draw, .pop, .draw] ∧ turtle.pen.saved = [] ∧
      Matches branches 2 8 ∧ Matches branches 4 6 ∧ unmatched branches = [10] ∧
      (after 9).pen.pose = (after 2).pen.pose ∧ (after 7).pen.pose = (after 4).pen.pose ∧
      after 1 = after 0 ∧ after 10 = after 9 ∧ (after 12).pen.depth = 1 ∧
      (Turtle.applyAll turtle branches).pen =
        (Turtle.applyAll turtle [.pop, .draw, .pop, .push, .draw]).pen := by
  intro turtle after
  rcases Operation.brackets_save_and_restore with ⟨_, obeys, forgets⟩
  have tracing := (obeys branches).2.2 (Array PathCommand) turtle rfl
  have outer : Matches branches 2 8 := by decide
  have inner : Matches branches 4 6 := by decide
  have waits : unmatched branches = [10] := by decide
  have balanced : IsBalanced [.turnLeft, .push, .draw, .pop, .draw] := by decide
  have forgotten := (forgets [.pop, .draw] _ [.pop, .push, .draw] balanced).2.2 _ turtle
  have strayAt (closing : Nat) (isPop : branches[closing]? = some .pop)
      (alone : ∀ opening < closing, ¬Matches branches opening closing) :
      after (closing + 1) = after closing :=
    tracing.stray closing isPop fun opening matching => alone opening matching.1 matching
  refine ⟨balanced, rfl, outer, inner, waits, tracing.restored _ _ outer,
    tracing.restored _ _ inner, strayAt 0 rfl (by decide), strayAt 9 rfl (by decide), ?_,
    forgotten.pen⟩
  have depth := tracing.depth 12
  rwa [show (branches.take 12) = branches from rfl, waits] at depth

end

end Lindenmayer
