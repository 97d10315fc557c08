import Lindenmayer.Proofs.Json.Spelling

/-!
# Values that are passed over

Whatever is spelled out is passed over, however deep it is nested. One step of the loop takes
off at least one character, except where a list or an object has just been opened, so twice the
length of the text is enough for the number of steps.
-/

namespace Lindenmayer.Json.Reader

variable {fuel : Nat} {frames : List Frame} {frame : Frame} {isFirst : Bool}
  {before front middle blanks written rest : List Char} {first : Char} {others : List Char}

/-! ## Single steps -/

theorem passOpen_blanks (blank : AreBlank blanks) (notBlank : isBlank first = false) :
    passOpen (fuel + 1) .value frames (blanks ++ first :: others) =
      passOpen (fuel + 1) .value frames (first :: others) := by
  have withoutBlanks : peekValue (first :: others) = .ok (first, first :: others) :=
    peekValue_blanks (List.forall_mem_nil _) notBlank
  apply (bind_of_ok (peekValue_blanks blank notBlank)).trans
  symm
  apply (bind_of_ok withoutBlanks).trans
  rfl

theorem passOpen_scalar (notBlank : isBlank first = false) (notList : first ≠ '[')
    (notObject : first ≠ '\x7b') (passed : passScalar first (first :: others) = .ok ((), rest)) :
    passOpen (fuel + 1) .value frames (first :: others) = passOpen fuel .nextEntry frames rest := by
  have peeked : peekValue (first :: others) = .ok (first, first :: others) :=
    peekValue_blanks (List.forall_mem_nil _) notBlank
  apply (bind_of_ok peeked).trans
  split
  · contradiction
  · contradiction
  · rw [bind_of_ok passed]

theorem passOpen_list (rest : List Char) :
    passOpen (fuel + 1) .value frames ('[' :: rest) =
      passOpen fuel .firstEntry (.list :: frames) rest :=
  rfl

theorem passOpen_object (rest : List Char) :
    passOpen (fuel + 1) .value frames ('\x7b' :: rest) =
      passOpen fuel .firstEntry (.object :: frames) rest :=
  rfl

/-- What is expected of a list or an object of which all or none has been passed over. -/
def entryOrEnd (isFirst : Bool) : Expecting := if isFirst then .firstEntry else .nextEntry

theorem passOpen_close (blank : AreBlank blanks) :
    passOpen (fuel + 1) (entryOrEnd isFirst) (frame :: frames) (blanks ++ frame.closer :: rest) =
      passOpen fuel .nextEntry frames rest := by
  have notBlank : isBlank frame.closer = false := by cases frame <;> rfl
  cases isFirst <;>
  · apply (bind_of_ok (skipBlanks_blanks blank notBlank)).trans
    apply (bind_of_ok (peek?_apply _)).trans
    simp only [List.head?_cons, if_true]
    exact bind_of_ok (skip_apply _ _)

/-- Before an entry its key is passed over; of the blanks before that some may be left. -/
theorem passOpen_entry (fuel : Nat) (frames : List Frame) (isFirst : Bool) (others : List Char)
    (beforeBlank : AreBlank before) (frontBlank : AreBlank front)
    (notBlank : isBlank first = false) (notCloser : first ≠ frame.closer) :
    ∃ left, AreBlank left ∧
      passOpen (fuel + 1) (entryOrEnd isFirst) (frame :: frames)
          (before ++ (separator isFirst ++ (front ++ first :: others))) =
        (passKey frame >>= fun _ => passOpen fuel .value (frame :: frames))
          (left ++ first :: others) := by
  cases isFirst with
  | true =>
      have blank := beforeBlank.append frontBlank
      refine ⟨[], List.forall_mem_nil _, ?_⟩
      simp only [separator, if_true, List.nil_append]
      rw [← List.append_assoc]
      apply (bind_of_ok (skipBlanks_blanks blank notBlank)).trans
      apply (bind_of_ok (peek?_apply _)).trans
      simp only [List.head?_cons, notCloser, if_false]
      rfl
  | false =>
      refine ⟨front, frontBlank, ?_⟩
      have notCloser : ',' ≠ frame.closer := by cases frame <;> decide
      simp only [separator, Bool.false_eq_true, if_false, List.cons_append, List.nil_append]
      apply (bind_of_ok (skipBlanks_blanks beforeBlank (by decide))).trans
      apply (bind_of_ok (peek?_apply _)).trans
      simp only [List.head?_cons, notCloser, if_false, entryOrEnd]
      rfl

theorem passKey_object (frontBlank : AreBlank front) (isWritten : IsWritten written)
    (middleBlank : AreBlank middle) :
    passKey .object (front ++ '"' :: (written ++ '"' :: (middle ++ ':' :: rest))) =
      .ok ((), rest) := by
  apply (bind_of_ok (skipBlanks_blanks frontBlank (by decide))).trans
  apply (bind_of_ok (peek?_apply _)).trans
  apply (bind_of_ok (skip_apply _ _)).trans
  rw [bind_of_ok (passString_apply isWritten)]
  exact colon_apply middleBlank

/-! ## Whole values -/

/--
What it means to pass over the inside of a list or an object, or over what is left of it: where
enough steps are allowed, passing over comes to what follows the closing bracket, and enough
steps are left for that.
-/
def PassesInside (frame : Frame) (isFirst : Bool) (chars : List Char) : Prop :=
  ∀ fuel frames rest,
    2 * (chars ++ frame.closer :: rest).length + (if isFirst then 3 else 2) ≤ fuel →
    ∃ left, 2 * rest.length + 2 ≤ left ∧
      passOpen fuel (entryOrEnd isFirst) (frame :: frames) (chars ++ frame.closer :: rest) =
        passOpen left .nextEntry frames rest

/-- What it means to pass over a phrase. -/
def Passes (chars : List Char) : Phrase → Prop
  | .value _ => ∀ fuel frames rest, Ends rest → 2 * (chars ++ rest).length + 2 ≤ fuel →
      ∃ left, 2 * rest.length + 2 ≤ left ∧
        passOpen fuel .value frames (chars ++ rest) = passOpen left .nextEntry frames rest
  | .elements isFirst _ => PassesInside .list isFirst chars
  | .members isFirst _ => PassesInside .object isFirst chars

theorem passes_scalar {chars : List Char} {tree : Tree} {first : Char} {others : List Char}
    (split : chars = first :: others) (notBlank : isBlank first = false) (notList : first ≠ '[')
    (notObject : first ≠ '\x7b')
    (passed : ∀ rest, Ends rest → passScalar first (chars ++ rest) = .ok ((), rest)) :
    Passes chars (.value tree) := by
  intro fuel frames rest ends enough
  subst split
  rcases fuel with _ | fuel
  · omega
  · refine ⟨fuel, ?_, passOpen_scalar notBlank notList notObject (passed rest ends)⟩
    simp only [List.cons_append, List.length_cons, List.length_append] at enough
    omega

theorem passScalar_number {numeral : List Char} (isNumeral : IsNumeral numeral) :
    ∃ first others, numeral = first :: others ∧ isBlank first = false ∧ first ≠ '[' ∧
      first ≠ '\x7b' ∧ ∀ rest, Ends rest → passScalar first (numeral ++ rest) = .ok ((), rest) := by
  rcases isNumeral.exists_first with ⟨first, others, split, begins⟩
  refine ⟨first, others, split, (beginsValue_of_beginsNumber begins).1, ?_, ?_, ?_⟩
  · rintro rfl
    simp [beginsNumber] at begins
  · rintro rfl
    simp [beginsNumber] at begins
  · intro rest ends
    unfold passScalar
    split
    · simp [beginsNumber] at begins
    · simp [beginsNumber] at begins
    · simp [beginsNumber] at begins
    · simp [beginsNumber] at begins
    · rw [if_pos begins]
      exact passNumber_apply isNumeral ends

/-- A list or an object is passed over as soon as its inside is. -/
theorem passes_opened {opener : Char} {chars : List Char} {tree : Tree}
    (opens : ∀ fuel frames rest, passOpen (fuel + 1) .value frames (opener :: rest) =
      passOpen fuel .firstEntry (frame :: frames) rest)
    (inside : PassesInside frame true chars) :
    Passes (opener :: (chars ++ [frame.closer])) (.value tree) := by
  intro fuel frames rest _ enough
  rw [List.cons_append, List.append_assoc, List.cons_append, List.nil_append] at enough ⊢
  rw [List.length_cons] at enough
  rcases fuel with _ | fuel
  · omega
  · rw [opens]
    apply inside fuel frames rest
    simp only [if_true]
    omega

theorem passesInside_blanks (blank : AreBlank blanks) : PassesInside frame isFirst blanks := by
  intro fuel frames rest enough
  rw [List.length_append, List.length_cons] at enough
  rcases fuel with _ | fuel
  · split at enough <;> omega
  · refine ⟨fuel, ?_, passOpen_close blank⟩
    split at enough <;> omega

/--
An entry is passed over and then what is left. It begins with the character `first`, and passing
over its key, if it has one, comes to its value.
-/
theorem passesInside_entry {body further : List Char} {tree : Tree}
    (beforeBlank : AreBlank before) (frontBlank : AreBlank front)
    (notBlank : isBlank first = false) (notCloser : first ≠ frame.closer)
    (keyPassed : ∀ left after, AreBlank left → ∃ gap, AreBlank gap ∧
      passKey frame (left ++ first :: (others ++ after)) = .ok ((), gap ++ (body ++ after)))
    (length_le : body.length ≤ others.length + 1)
    (value : Spells body (.value tree)) (valuePasses : Passes body (.value tree))
    (ends : ∀ rest, Ends (further ++ frame.closer :: rest))
    (furtherPasses : PassesInside frame false further) :
    PassesInside frame isFirst
      (before ++ (separator isFirst ++ (front ++ first :: (others ++ further)))) := by
  intro fuel frames rest enough
  simp only [List.append_assoc, List.cons_append, List.length_append, List.length_cons]
    at enough ⊢
  rcases fuel with _ | fuel
  · split at enough <;> omega
  · rcases passOpen_entry fuel frames isFirst (others ++ (further ++ frame.closer :: rest))
      beforeBlank frontBlank notBlank notCloser with ⟨left, leftBlank, entered⟩
    rcases keyPassed left (further ++ frame.closer :: rest) leftBlank with ⟨gap, gapBlank, passed⟩
    -- The first entry has no comma before it that would pay for its step; its bracket does.
    have enoughForValue : 2 * (body ++ (further ++ frame.closer :: rest)).length + 2 ≤ fuel := by
      simp only [List.length_append, List.length_cons]
      cases isFirst <;> simp [separator] at enough <;> omega
    rcases valuePasses fuel (frame :: frames) _ (ends rest) enoughForValue with
      ⟨later, laterEnough, valuePassed⟩
    rcases furtherPasses later frames rest laterEnough with ⟨last, lastEnough, furtherPassed⟩
    rcases value.exists_first with ⟨valueFirst, tail, rfl, valueNotBlank, _⟩
    refine ⟨last, lastEnough, ?_⟩
    rw [entered, bind_of_ok passed]
    rcases fuel with _ | fuel
    · contradiction
    · exact (passOpen_blanks gapBlank valueNotBlank).trans (valuePassed.trans furtherPassed)

/-- Whatever is spelled out is passed over. -/
theorem passes_of_spells {chars : List Char} {phrase : Phrase} (spells : Spells chars phrase) :
    Passes chars phrase := by
  induction spells with
  | null => exact passes_scalar rfl rfl (by decide) (by decide) fun rest _ => literal_apply _ rest
  | true => exact passes_scalar rfl rfl (by decide) (by decide) fun rest _ => literal_apply _ rest
  | false => exact passes_scalar rfl rfl (by decide) (by decide) fun rest _ => literal_apply _ rest
  | number isNumeral =>
      rcases passScalar_number isNumeral with
        ⟨first, others, split, notBlank, notList, notObject, passed⟩
      exact passes_scalar split notBlank notList notObject passed
  | @string written isWritten =>
      apply passes_scalar rfl rfl (by decide) (by decide)
      intro rest _
      rw [List.cons_append, List.append_assoc]
      exact (bind_of_ok (skip_apply _ _)).trans (passString_apply isWritten)
  | list _ insidePasses => exact passes_opened (fun _ _ rest => passOpen_list rest) insidePasses
  | object _ insidePasses => exact passes_opened (fun _ _ rest => passOpen_object rest) insidePasses
  | noElement blank => exact passesInside_blanks blank
  | noMember blank => exact passesInside_blanks blank
  | @element before front body others isFirst tree trees beforeBlank frontBlank value further
      valuePasses furtherPasses =>
      rcases value.exists_first with ⟨first, tail, rfl, notBlank, notClosing⟩
      have notCloser : first ≠ Frame.list.closer := notClosing
      -- An element has no key, so passing over it does nothing.
      have keyPassed : ∀ left after, AreBlank left → ∃ gap, AreBlank gap ∧
          passKey .list (left ++ first :: (tail ++ after)) =
            .ok ((), gap ++ (first :: tail ++ after)) :=
        fun left after leftBlank => ⟨left, leftBlank, rfl⟩
      exact passesInside_entry beforeBlank frontBlank notBlank notCloser keyPassed (Nat.le_refl _)
        value valuePasses further.ends_elements furtherPasses
  | @member before front middle gap body others written isFirst tree members beforeBlank frontBlank
      isWritten middleBlank gapBlank value further valuePasses furtherPasses =>
      have keyPassed : ∀ left after, AreBlank left → ∃ blanks, AreBlank blanks ∧
          passKey .object
              (left ++ '"' :: ((written ++ '"' :: (middle ++ ':' :: (gap ++ body))) ++ after)) =
            .ok ((), blanks ++ (body ++ after)) := by
        intro left after leftBlank
        refine ⟨gap, gapBlank, ?_⟩
        simp only [List.append_assoc, List.cons_append]
        exact passKey_object leftBlank isWritten middleBlank
      have length_le :
          body.length ≤ (written ++ '"' :: (middle ++ ':' :: (gap ++ body))).length + 1 := by
        simp only [List.length_append, List.length_cons]
        omega
      have notBlank : isBlank '"' = .false := rfl
      have notCloser : '"' ≠ Frame.object.closer := by decide
      have inside : PassesInside .object isFirst _ :=
        passesInside_entry beforeBlank frontBlank notBlank notCloser keyPassed length_le
          value valuePasses further.ends_members furtherPasses
      simp only [List.append_assoc, List.cons_append] at inside
      exact inside

/-- A value that is spelled out is passed over as a whole. -/
theorem passValue_apply {chars : List Char} {tree : Tree} (spells : Spells chars (.value tree))
    (blank : AreBlank blanks) (ends : Ends rest) :
    passValue (blanks ++ (chars ++ rest)) = .ok ((), rest) := by
  have enough :
      2 * (chars ++ rest).length + 2 ≤ 2 * (blanks ++ (chars ++ rest)).length + 1 + 1 := by
    simp only [List.length_append]
    omega
  rcases passes_of_spells spells _ [] rest ends enough with ⟨left, leftEnough, passed⟩
  rcases spells.exists_first with ⟨first, tail, rfl, notBlank, _⟩
  unfold passValue
  rw [bind_of_ok (bound_apply _)]
  apply (passOpen_blanks blank notBlank).trans
  apply passed.trans
  rcases left with _ | left
  · contradiction
  · rfl

end Lindenmayer.Json.Reader
