import Lindenmayer.Proofs.Json.Numbers
import Lindenmayer.Proofs.Json.Strings

/-!
# Spellings and the marks in them

How spellings begin and end, and what the readers of brackets, commas, keys and colons do to
them.
-/

namespace Lindenmayer.Json

open Reader

/-! ## Beginnings and ends of spellings -/

/-- Whether a value may begin with a character; a rough criterion, but one that is sufficient. -/
def BeginsValue (char : Char) : Prop := isBlank char = false ∧ char ≠ ']'

theorem beginsValue_of_beginsNumber {char : Char} (begins : beginsNumber char) :
    BeginsValue char := by
  constructor
  · apply Bool.eq_false_iff.mpr
    intro blank
    simp only [isBlank, Bool.or_eq_true, decide_eq_true_eq] at blank
    rcases blank with ((rfl | rfl) | rfl) | rfl <;> simp [beginsNumber] at begins
  · rintro rfl
    simp [beginsNumber] at begins

theorem IsNumeral.exists_first {numeral : List Char} (isNumeral : IsNumeral numeral) :
    ∃ first others, numeral = first :: others ∧ beginsNumber first := by
  cases isNumeral with
  | negative _ _ _ => exact ⟨_, _, rfl, rfl⟩
  | positive isWhole _ _ =>
      cases isWhole with
      | zero => exact ⟨_, _, rfl, rfl⟩
      | digits digit _ _ => exact ⟨_, _, rfl, by simp [beginsNumber, digit]⟩

namespace Spells

variable {chars : List Char} {tree : Tree} {trees : List Tree} {isFirst : Bool}
  {entries : List (List Char × Tree)}

theorem exists_first (spells : Spells chars (.value tree)) :
    ∃ first others, chars = first :: others ∧ BeginsValue first := by
  cases spells with
  | null => exact ⟨_, _, rfl, by decide, by decide⟩
  | true => exact ⟨_, _, rfl, by decide, by decide⟩
  | false => exact ⟨_, _, rfl, by decide, by decide⟩
  | string _ => exact ⟨_, _, rfl, by decide, by decide⟩
  | list _ => exact ⟨_, _, rfl, by decide, by decide⟩
  | object _ => exact ⟨_, _, rfl, by decide, by decide⟩
  | number isNumeral =>
      rcases isNumeral.exists_first with ⟨first, others, rfl, begins⟩
      exact ⟨first, others, rfl, beginsValue_of_beginsNumber begins⟩

theorem length_pos (spells : Spells chars (.value tree)) : 0 < chars.length := by
  rcases spells.exists_first with ⟨first, others, rfl, _⟩
  exact Nat.succ_pos _

theorem ends_elements (spells : Spells chars (.elements .false trees)) (rest : List Char) :
    Ends (chars ++ ']' :: rest) := by
  cases spells with
  | noElement blank => exact .blanks blank (.cons (by decide))
  | element beforeBlank _ _ _ =>
      rw [List.append_assoc]
      have comma : continuesNumber ',' = .false := rfl
      exact .blanks beforeBlank (.cons comma)

theorem ends_members (spells : Spells chars (.members .false entries)) (rest : List Char) :
    Ends (chars ++ '\x7d' :: rest) := by
  cases spells with
  | noMember blank => exact .blanks blank (.cons (by decide))
  | member beforeBlank _ _ _ _ _ _ =>
      rw [List.append_assoc]
      have comma : continuesNumber ',' = .false := rfl
      exact .blanks beforeBlank (.cons comma)

theorem length_elements_le (spells : Spells chars (.elements isFirst trees)) :
    trees.length ≤ chars.length := by
  induction trees generalizing chars isFirst with
  | nil => exact Nat.zero_le _
  | cons tree trees inductionHypothesis =>
      cases spells with
      | element _ _ value further =>
          have further_le := inductionHypothesis further
          have value_pos := value.length_pos
          simp only [List.length_cons, List.length_append]
          omega

theorem length_members_le (spells : Spells chars (.members isFirst entries)) :
    entries.length ≤ chars.length := by
  induction entries generalizing chars isFirst with
  | nil => exact Nat.zero_le _
  | cons entry entries inductionHypothesis =>
      cases spells with
      | member _ _ _ _ _ _ further =>
          have further_le := inductionHypothesis further
          simp only [List.length_cons, List.length_append]
          omega

end Spells

namespace Reader

variable {before front middle body rest written : List Char} {isFirst : Bool} {tree : Tree}

/-! ## Marks between elements and members -/

theorem nextElement_last (blank : AreBlank before) :
    nextElement isFirst (before ++ ']' :: rest) = .ok (false, ']' :: rest) := by
  unfold nextElement
  rw [bind_of_ok (skipBlanks_blanks blank (by decide)), bind_of_ok (peek?_apply _)]
  rfl

theorem nextElement_begins {first : Char} (beforeBlank : AreBlank before)
    (frontBlank : AreBlank front) (begins : BeginsValue first) :
    nextElement isFirst (before ++ (separator isFirst ++ (front ++ first :: rest))) =
      .ok (true, first :: rest) := by
  rcases begins with ⟨notBlank, notClosing⟩
  unfold nextElement
  cases isFirst with
  | true =>
      have blank := beforeBlank.append frontBlank
      simp only [separator, if_true, List.nil_append]
      rw [← List.append_assoc, bind_of_ok (skipBlanks_blanks blank notBlank),
        bind_of_ok (peek?_apply _)]
      simp only [List.head?_cons]
      rfl
  | false =>
      simp only [separator, Bool.false_eq_true, if_false, List.cons_append, List.nil_append]
      rw [bind_of_ok (skipBlanks_blanks beforeBlank (by decide)), bind_of_ok (peek?_apply _)]
      apply (bind_of_ok (skip_apply _ _)).trans
      rw [bind_of_ok (skipBlanks_blanks frontBlank notBlank), bind_of_ok (peek?_apply _)]
      simp only [List.head?_cons]
      rfl

theorem nextElement_next (beforeBlank : AreBlank before) (frontBlank : AreBlank front)
    (value : Spells body (.value tree)) :
    nextElement isFirst (before ++ (separator isFirst ++ (front ++ (body ++ rest)))) =
      .ok (true, body ++ rest) := by
  rcases value.exists_first with ⟨first, others, rfl, begins⟩
  exact nextElement_begins beforeBlank frontBlank begins

theorem nextKey?_last (blank : AreBlank before) :
    nextKey? isFirst (before ++ '\x7d' :: rest) = .ok (none, '\x7d' :: rest) := by
  unfold nextKey?
  rw [bind_of_ok (skipBlanks_blanks blank (by decide)), bind_of_ok (peek?_apply _)]
  rfl

theorem nextKey?_next (beforeBlank : AreBlank before) (frontBlank : AreBlank front) :
    nextKey? isFirst (before ++ (separator isFirst ++ (front ++ '"' :: rest))) =
      (stringBody >>= fun key => pure (some key)) rest := by
  unfold nextKey?
  cases isFirst with
  | true =>
      have blank := beforeBlank.append frontBlank
      simp only [separator, if_true, List.nil_append]
      rw [← List.append_assoc, bind_of_ok (skipBlanks_blanks blank (by decide)),
        bind_of_ok (peek?_apply _)]
      rfl
  | false =>
      simp only [separator, Bool.false_eq_true, if_false, List.cons_append, List.nil_append]
      rw [bind_of_ok (skipBlanks_blanks beforeBlank (by decide)), bind_of_ok (peek?_apply _)]
      apply (bind_of_ok (skip_apply _ _)).trans
      rw [bind_of_ok (skipBlanks_blanks frontBlank (by decide)), bind_of_ok (peek?_apply _)]
      rfl

/-- A key that is read is what is written between its quotes. -/
theorem nextKey?_eq_ok {result : Option String × List Char} (beforeBlank : AreBlank before)
    (frontBlank : AreBlank front) (isWritten : IsWritten written)
    (ended : nextKey? isFirst
      (before ++ (separator isFirst ++ (front ++ '"' :: (written ++ '"' :: rest)))) = .ok result) :
    ∃ key, result = (some key, rest) ∧ Denotes written key.toList := by
  rw [nextKey?_next beforeBlank frontBlank] at ended
  rcases bind_eq_ok_iff.mp ended with ⟨key, _, body, returned⟩
  rcases stringBody_eq_ok isWritten body with ⟨denotes, rfl⟩
  rcases pure_eq_ok_iff.mp returned with rfl
  exact ⟨key, rfl, denotes⟩

theorem colon_apply (blank : AreBlank middle) :
    colon (middle ++ ':' :: rest) = .ok ((), rest) := by
  unfold colon
  rw [bind_of_ok (skipBlanks_blanks blank (by decide)), bind_of_ok (peek?_apply _)]
  rfl

end Reader

end Lindenmayer.Json
