import Lindenmayer.Json.Skipping
import Lindenmayer.Proofs.Json.Steps

/-!
# Numbers as they are written and read

A number is read to its end, which shows in the character after it, and what it is read as does
not depend on anything after it.
-/

namespace Lindenmayer.Json

namespace Reader

variable {α β : Type}

/-! ## Where a number ends -/

def continuesNumber (char : Char) : Bool :=
  char.isDigit || char = '.' || char = 'e' || char = 'E'

/-- Whether a number cannot go on with what comes next. -/
def Ends (rest : List Char) : Prop := ∀ char ∈ rest.head?, continuesNumber char = false

/-- Whether digits cannot go on with what comes next. -/
def EndsDigits (rest : List Char) : Prop := ∀ char ∈ rest.head?, char.isDigit = false

theorem Ends.nil : Ends [] := by
  intro char atHead
  cases atHead

theorem Ends.cons {char : Char} {rest : List Char} (ends : continuesNumber char = false) :
    Ends (char :: rest) := by
  intro first atHead
  cases atHead
  exact ends

theorem continuesNumber_blank {char : Char} (blank : isBlank char) :
    continuesNumber char = false := by
  simp only [isBlank, Bool.or_eq_true, decide_eq_true_eq] at blank
  rcases blank with ((rfl | rfl) | rfl) | rfl <;> decide

theorem Ends.blanks {blanks rest : List Char} (blank : AreBlank blanks) (ends : Ends rest) :
    Ends (blanks ++ rest) := by
  cases blanks with
  | nil => exact ends
  | cons char blanks => exact .cons (continuesNumber_blank (blank char List.mem_cons_self))

theorem EndsDigits.cons {char : Char} {rest : List Char} (ends : char.isDigit = false) :
    EndsDigits (char :: rest) := by
  intro first atHead
  cases atHead
  exact ends

theorem Ends.endsDigits {rest : List Char} (ends : Ends rest) : EndsDigits rest := by
  intro char atHead
  have ended := ends char atHead
  simp only [continuesNumber, Bool.or_eq_false_iff] at ended
  exact ended.1.1.1

/-! ## Digits and signs -/

def AreDigits (chars : List Char) : Prop := ∀ char ∈ chars, char.isDigit

variable {digits rest : List Char}

theorem absorb_append (limit value : Nat) (areDigits : AreDigits digits) :
    ∃ grown count left, AreDigits left ∧
      ∀ rest, EndsDigits rest →
        absorb limit value (digits ++ rest) = (grown, count, left ++ rest) := by
  induction digits generalizing value with
  | nil =>
      refine ⟨value, 0, [], areDigits, ?_⟩
      intro rest ends
      cases rest with
      | nil => rfl
      | cons char rest =>
          have noDigit := ends char rfl
          simp [absorb, noDigit]
  | cons char digits inductionHypothesis =>
      rcases List.forall_mem_cons.mp areDigits with ⟨isDigit, restDigits⟩
      by_cases fits : 10 * value + (char.toNat - '0'.toNat) ≤ limit
      · rcases inductionHypothesis (10 * value + (char.toNat - '0'.toNat)) restDigits with
          ⟨grown, count, left, leftDigits, absorbed⟩
        refine ⟨grown, count + 1, left, leftDigits, ?_⟩
        intro rest ends
        rw [List.cons_append, absorb, if_pos ⟨isDigit, fits⟩, absorbed rest ends]
      · refine ⟨value, 0, char :: digits, areDigits, ?_⟩
        intro rest ends
        rw [List.cons_append, absorb, if_neg fun absorbed => fits absorbed.2]

theorem absorbDigits_append (limit value : Nat) (areDigits : AreDigits digits) :
    ∃ taken left, AreDigits left ∧
      ∀ rest, EndsDigits rest →
        absorbDigits limit value (digits ++ rest) = .ok (taken, left ++ rest) := by
  rcases absorb_append limit value areDigits with ⟨grown, count, left, leftDigits, absorbed⟩
  refine ⟨(grown, count), left, leftDigits, ?_⟩
  intro rest ends
  change Except.ok (((absorb limit value (digits ++ rest)).1, _), _) = _
  rw [absorbed rest ends]

theorem skipDigits_append (areDigits : AreDigits digits) (ends : EndsDigits rest) :
    skipDigits (digits ++ rest) = .ok (digits.length, rest) := by
  have noneTaken : rest.takeWhile Char.isDigit = [] := by
    cases rest with
    | nil => rfl
    | cons char rest => simp [ends char rfl]
  have noneDropped : rest.dropWhile Char.isDigit = rest := by
    cases rest with
    | nil => rfl
    | cons char rest => simp [ends char rfl]
  change Except.ok (((digits ++ rest).takeWhile Char.isDigit).length,
    (digits ++ rest).dropWhile Char.isDigit) = _
  rw [List.takeWhile_append_of_pos areDigits, List.dropWhile_append_of_pos areDigits, noneTaken,
    noneDropped, List.append_nil]

theorem atDigit_append (areDigits : AreDigits digits) (ends : EndsDigits rest) :
    atDigit (digits ++ rest) = .ok (!digits.isEmpty, digits ++ rest) := by
  change Except.ok ((digits ++ rest).head?.any Char.isDigit, _) = _
  cases digits with
  | cons char digits => simp [areDigits char List.mem_cons_self]
  | nil =>
      cases rest with
      | nil => rfl
      | cons char rest => simp [ends char rfl]

theorem EndsDigits.atDigit_apply (ends : EndsDigits rest) : atDigit rest = .ok (false, rest) :=
  @atDigit_append [] rest (List.forall_mem_nil _) ends

theorem skipIf_same (char : Char) (rest : List Char) :
    skipIf char (char :: rest) = .ok (true, rest) := by
  unfold skipIf
  rw [bind_of_ok (peek?_apply _), if_pos List.head?_cons]
  rfl

theorem skipIf_other {char : Char} (different : rest.head? ≠ some char) :
    skipIf char rest = .ok (false, rest) := by
  unfold skipIf
  rw [bind_of_ok (peek?_apply _), if_neg different]
  rfl

theorem AreDigits.head?_append_ne {char : Char} (areDigits : AreDigits digits)
    (nonempty : digits ≠ []) (noDigit : char.isDigit = false) :
    (digits ++ rest).head? ≠ some char := by
  cases digits with
  | nil => exact absurd rfl nonempty
  | cons first digits =>
      have isDigit := areDigits first List.mem_cons_self
      rintro ⟨⟩
      simp [noDigit] at isDigit

theorem exponentSign_append {sign : List Char} (isSign : IsExponentSign sign)
    (areDigits : AreDigits digits) (nonempty : digits ≠ []) :
    exponentSign (sign ++ (digits ++ rest)) = .ok (decide (sign = ['-']), digits ++ rest) := by
  have noMinus : (digits ++ rest).head? ≠ some '-' := areDigits.head?_append_ne nonempty rfl
  have noPlus : (digits ++ rest).head? ≠ some '+' := areDigits.head?_append_ne nonempty rfl
  unfold exponentSign
  cases isSign with
  | none =>
      rw [List.nil_append, bind_of_ok (skipIf_other noMinus)]
      change (skipIf '+' >>= fun _ => pure false) _ = _
      rw [bind_of_ok (skipIf_other noPlus)]
      rfl
  | plus =>
      rw [List.cons_append, List.nil_append, bind_of_ok (skipIf_other (by simp))]
      change (skipIf '+' >>= fun _ => pure false) _ = _
      rw [bind_of_ok (skipIf_same _ _)]
      rfl
  | minus =>
      rw [List.cons_append, List.nil_append, bind_of_ok (skipIf_same _ _)]
      rfl

/-! ## Numbers that are read -/

/--
Whether characters settle what a reader makes of them, be it a value or a failure, whatever comes
after them.
-/
def Settles (reader : Reader α) (chars : List Char) : Prop :=
  ∃ outcome : Option α, ∀ rest, Ends rest → ∀ result,
    reader (chars ++ rest) = .ok result ↔ outcome = some result.1 ∧ result.2 = rest

theorem settles_pure (value : α) : Settles (pure value) [] := by
  refine ⟨some value, ?_⟩
  rintro rest _ ⟨other, left⟩
  rw [List.nil_append, pure_eq_ok_iff, Prod.mk.injEq, Option.some.injEq]
  exact and_congr_left' eq_comm

theorem settles_of_ne_ok {reader : Reader α} (fails : ∀ text result, reader text ≠ .ok result)
    (chars : List Char) : Settles reader chars := by
  refine ⟨none, ?_⟩
  intro rest _ result
  simp [fails]

theorem settles_failPast (ahead : Nat) (reason : Reason) (chars : List Char) :
    Settles (failPast ahead reason : Reader α) chars :=
  settles_of_ne_ok (fun _ _ => failPast_ne_ok ahead reason _) chars

theorem Settles.of_steps {reader next : Reader α} {chars left : List Char}
    (steps : ∀ rest, Ends rest → reader (chars ++ rest) = next (left ++ rest))
    (further : Settles next left) : Settles reader chars := by
  rcases further with ⟨outcome, settled⟩
  refine ⟨outcome, ?_⟩
  intro rest ends result
  rw [steps rest ends]
  exact settled rest ends result

/-- A step that goes well leaves it to the next reader to settle what comes of the rest. -/
theorem Settles.after {reader : Reader α} {next : α → Reader β} {chars left : List Char}
    {value : α} (taken : ∀ rest, Ends rest → reader (chars ++ rest) = .ok (value, left ++ rest))
    (further : Settles (next value) left) : Settles (reader >>= next) chars :=
  .of_steps (fun rest ends => bind_of_ok (taken rest ends)) further

theorem Settles.after_look {reader : Reader α} {next : α → Reader β} {chars : List Char}
    {value : α} (taken : ∀ rest, Ends rest → reader (chars ++ rest) = .ok (value, chars ++ rest))
    (further : Settles (next value) chars) : Settles (reader >>= next) chars :=
  .after taken further

theorem Settles.after_all {reader : Reader α} {next : α → Reader β} {chars : List Char}
    {value : α} (taken : ∀ rest, Ends rest → reader (chars ++ rest) = .ok (value, rest))
    (further : Settles (next value) []) : Settles (reader >>= next) chars :=
  .of_steps (fun rest ends => bind_of_ok (taken rest ends)) further

/-- What is done at the front of a part is done whatever the part goes on with. -/
theorem taken_before {reader : Reader α} {front back left : List Char} {value : α}
    (taken : ∀ rest, EndsDigits rest → reader (front ++ rest) = .ok (value, left ++ rest))
    (backEnds : ∀ rest, Ends rest → EndsDigits (back ++ rest)) (rest : List Char)
    (ends : Ends rest) : reader (front ++ back ++ rest) = .ok (value, left ++ back ++ rest) := by
  rw [List.append_assoc, List.append_assoc]
  exact taken _ (backEnds rest ends)

theorem floatOfParts_settles (isNegative : Bool) (significand : Nat) (exponent : Int) :
    Settles (floatOfParts isNegative significand exponent) [] := by
  unfold floatOfParts
  split
  · exact settles_pure _
  · exact settles_failPast _ _ _

theorem peek?_append (nonempty : digits ≠ []) :
    peek? (digits ++ rest) = .ok (digits.head?, digits ++ rest) := by
  cases digits with
  | nil => exact absurd rfl nonempty
  | cons _ _ => rfl

theorem exponentDigits_settles (isNegative : Bool) (significand : Nat) (exponent : Int)
    (isReduced : Bool) (areDigits : AreDigits digits) (nonempty : digits ≠ []) :
    Settles (exponentDigits isNegative significand exponent isReduced) digits := by
  rcases absorbDigits_append Number.greatestExponent 0 areDigits with
    ⟨⟨change, count⟩, left, leftDigits, absorbed⟩
  unfold exponentDigits
  apply Settles.after_look fun _ _ => peek?_append nonempty
  rw [if_neg (by simpa using nonempty)]
  apply Settles.after_look fun _ ends => atDigit_append areDigits ends.endsDigits
  rw [if_neg (by simpa using nonempty)]
  apply Settles.after fun rest ends => absorbed rest ends.endsDigits
  apply Settles.after_look fun _ ends => atDigit_append leftDigits ends.endsDigits
  split
  · split
    · exact settles_failPast _ _ _
    · apply Settles.after_all fun _ ends => skipDigits_append leftDigits ends.endsDigits
      exact settles_pure _
  · rename_i noneLeft
    have left_eq : left = [] := by simpa using noneLeft
    rw [left_eq]
    exact floatOfParts_settles _ _ _

theorem exponentPart_settles (isNegative : Bool) (significand : Nat) (exponent : Int)
    {letter : Char} {sign : List Char} (isSign : IsExponentSign sign)
    (areDigits : AreDigits digits) (nonempty : digits ≠ []) :
    Settles (exponentPart isNegative significand exponent) (letter :: (sign ++ digits)) := by
  unfold exponentPart
  apply Settles.after fun rest _ => skip_apply letter (sign ++ digits ++ rest)
  have taken : ∀ rest, Ends rest →
      exponentSign (sign ++ digits ++ rest) = .ok (decide (sign = ['-']), digits ++ rest) := by
    intro rest _
    rw [List.append_assoc]
    exact exponentSign_append isSign areDigits nonempty
  exact .after taken (exponentDigits_settles _ _ _ _ areDigits nonempty)

theorem Ends.atExponent_apply {rest : List Char} (ends : Ends rest) :
    atExponent rest = .ok (false, rest) := by
  change Except.ok (rest.head?.any _, rest) = _
  cases rest with
  | nil => rfl
  | cons char rest =>
      have ended := ends char rfl
      simp only [continuesNumber, Bool.or_eq_false_iff] at ended
      simp [ended]

theorem atExponent_letter {letter : Char} {rest : List Char}
    (isLetter : letter = 'e' ∨ letter = 'E') :
    atExponent (letter :: rest) = .ok (true, letter :: rest) := by
  rcases isLetter with rfl | rfl <;> rfl

theorem numberEnd_settles (isNegative : Bool) (significand : Nat) (exponent : Int)
    {chars : List Char} (isExponent : IsExponent chars) :
    Settles (numberEnd isNegative significand exponent) chars := by
  unfold numberEnd
  cases isExponent with
  | none =>
      apply Settles.after_all fun rest ends => ends.atExponent_apply
      exact floatOfParts_settles _ _ _
  | digits isLetter isSign nonempty areDigits =>
      apply Settles.after_look fun _ _ => atExponent_letter isLetter
      exact exponentPart_settles _ _ _ isSign areDigits nonempty

theorem Ends.exponent {exponent : List Char} (ends : Ends rest)
    (isExponent : IsExponent exponent) : EndsDigits (exponent ++ rest) := by
  cases isExponent with
  | none => exact ends.endsDigits
  | digits isLetter _ _ _ =>
      apply EndsDigits.cons
      rcases isLetter with rfl | rfl <;> decide

theorem Ends.fraction {fraction exponent : List Char} (ends : Ends rest)
    (isFraction : IsFraction fraction) (isExponent : IsExponent exponent) :
    EndsDigits (fraction ++ exponent ++ rest) := by
  cases isFraction with
  | none => exact ends.exponent isExponent
  | digits _ _ => exact .cons (by decide)

theorem fractionPart_settles (isNegative : Bool) (significand : Nat) (exponent : Int)
    {chars : List Char} (areDigits : AreDigits digits) (isExponent : IsExponent chars) :
    Settles (fractionPart isNegative significand exponent) ('.' :: (digits ++ chars)) := by
  rcases absorbDigits_append Number.greatestSignificand significand areDigits with
    ⟨⟨grown, count⟩, left, leftDigits, absorbed⟩
  have exponentEnds : ∀ rest, Ends rest → EndsDigits (chars ++ rest) :=
    fun _ ends => ends.exponent isExponent
  unfold fractionPart
  apply Settles.after fun rest _ => skip_apply '.' (digits ++ chars ++ rest)
  apply Settles.after (taken_before absorbed exponentEnds)
  apply Settles.after_look (taken_before (fun _ => atDigit_append leftDigits) exponentEnds)
  split
  · have skipped : ∀ rest, EndsDigits rest →
        skipDigits (left ++ rest) = .ok (left.length, [] ++ rest) :=
      fun _ => skipDigits_append leftDigits
    apply Settles.after (taken_before skipped exponentEnds)
    exact numberEnd_settles _ _ _ isExponent
  · rename_i noneLeft
    have left_eq : left = [] := by simpa using noneLeft
    rw [left_eq, List.nil_append]
    split
    -- Without any digit the numeral is refused, only the reason depends on what comes next.
    · apply settles_of_ne_ok
      intro text result ended
      rcases bind_eq_ok_iff.mp ended with ⟨next, rest, _, failed⟩
      split at failed <;> cases failed
    · exact numberEnd_settles _ _ _ isExponent

theorem head?_exponent_ne {exponent : List Char} (isExponent : IsExponent exponent)
    (ends : Ends rest) : (exponent ++ rest).head? ≠ some '.' := by
  cases isExponent with
  | none =>
      intro atHead
      have ended := ends '.' atHead
      simp [continuesNumber] at ended
  | digits isLetter _ _ _ => rcases isLetter with rfl | rfl <;> simp

theorem numberTail_settles (isNegative : Bool) (significand dropped : Nat)
    {fraction exponent : List Char} (isFraction : IsFraction fraction)
    (isExponent : IsExponent exponent) :
    Settles (numberTail isNegative significand dropped) (fraction ++ exponent) := by
  unfold numberTail
  cases isFraction with
  | digits _ areDigits =>
      apply Settles.after_look fun _ _ => peek?_append (List.cons_ne_nil _ _)
      exact fractionPart_settles _ _ _ areDigits isExponent
  | none =>
      rw [List.nil_append]
      have noPoint : ∀ rest, Ends rest →
          numberTail isNegative significand dropped (exponent ++ rest) =
            (do
              if (← atExponent) || dropped ≠ 0 then numberEnd isNegative significand dropped
              else return .ofInteger isNegative significand) (exponent ++ rest) := by
        intro rest ends
        apply (bind_of_ok (peek?_apply _)).trans
        rw [if_neg (head?_exponent_ne isExponent ends)]
      apply Settles.of_steps noPoint
      have numberEnds := numberEnd_settles isNegative significand dropped isExponent
      cases isExponent with
      | none =>
          apply Settles.after_all fun _ ends => ends.atExponent_apply
          split
          · exact numberEnds
          · exact settles_pure _
      | digits isLetter _ _ _ =>
          apply Settles.after_look fun _ _ => atExponent_letter isLetter
          rw [if_pos (by simp)]
          exact numberEnds

theorem magnitude_settles (isNegative : Bool) {whole tail : List Char} (isWhole : IsWhole whole)
    (tailEnds : ∀ rest, Ends rest → EndsDigits (tail ++ rest))
    (tailSettles : ∀ significand dropped,
      Settles (numberTail isNegative significand dropped) tail) :
    Settles (magnitude isNegative) (whole ++ tail) := by
  unfold magnitude
  cases isWhole with
  | zero =>
      apply Settles.after_look fun _ _ => peek?_append (List.cons_ne_nil _ _)
      apply Settles.after fun rest _ => skipIf_same '0' (tail ++ rest)
      apply Settles.after_look fun rest ends => (tailEnds rest ends).atDigit_apply
      exact tailSettles _ _
  | @digits first others digit leading digits =>
      have areDigits : AreDigits (first :: others) := List.forall_mem_cons.mpr ⟨digit, digits⟩
      rcases absorbDigits_append Number.greatestSignificand 0 areDigits with
        ⟨⟨significand, count⟩, left, leftDigits, absorbed⟩
      have skipped : ∀ rest, EndsDigits rest →
          skipDigits (left ++ rest) = .ok (left.length, [] ++ rest) :=
        fun _ => skipDigits_append leftDigits
      apply Settles.after_look fun _ _ => peek?_append (List.cons_ne_nil _ _)
      apply Settles.after_look fun _ _ => skipIf_other (by simpa using leading)
      apply Settles.after_look (taken_before (fun _ => atDigit_append areDigits) tailEnds)
      apply Settles.after (taken_before absorbed tailEnds)
      apply Settles.after (taken_before skipped tailEnds)
      exact tailSettles _ _

theorem head?_whole_ne {whole : List Char} (isWhole : IsWhole whole) :
    (whole ++ rest).head? ≠ some '-' := by
  cases isWhole with
  | zero => simp
  | digits digit _ _ =>
      rintro ⟨⟩
      simp at digit

/-- What a numeral is read as, if anything, does not depend on what comes after it. -/
theorem number_settles {numeral : List Char} (isNumeral : IsNumeral numeral) :
    Settles number numeral := by
  unfold number
  cases isNumeral with
  | @positive whole fraction exponent isWhole isFraction isExponent =>
      have unsigned : ∀ rest, Ends rest →
          skipIf '-' (whole ++ (fraction ++ exponent) ++ rest) =
            .ok (false, whole ++ (fraction ++ exponent) ++ rest) := by
        intro rest _
        rw [List.append_assoc]
        exact skipIf_other (head?_whole_ne isWhole)
      apply Settles.after_look unsigned
      exact magnitude_settles _ isWhole (fun rest ends => ends.fraction isFraction isExponent)
        (fun _ _ => numberTail_settles _ _ _ isFraction isExponent)
  | @negative whole fraction exponent isWhole isFraction isExponent =>
      apply Settles.after fun rest _ => skipIf_same '-' (whole ++ (fraction ++ exponent) ++ rest)
      exact magnitude_settles _ isWhole (fun rest ends => ends.fraction isFraction isExponent)
        (fun _ _ => numberTail_settles _ _ _ isFraction isExponent)

/-- A numeral is taken off as a whole, and is read as if nothing came after it. -/
theorem number_eq_ok {numeral : List Char} (isNumeral : IsNumeral numeral) (ends : Ends rest)
    {result : Number × List Char} (ended : number (numeral ++ rest) = .ok result) :
    number numeral = .ok (result.1, []) ∧ result.2 = rest := by
  rcases number_settles isNumeral with ⟨outcome, settled⟩
  rcases (settled rest ends result).mp ended with ⟨same, left⟩
  have alone := (settled [] .nil (result.1, [])).mpr ⟨same, rfl⟩
  rw [List.append_nil] at alone
  exact ⟨alone, left⟩

/-! ## Numbers that are passed over -/

theorem passExponent_apply {letter : Char} {sign : List Char} (isSign : IsExponentSign sign)
    (areDigits : AreDigits digits) (nonempty : digits ≠ []) (ends : Ends rest) :
    passExponent (letter :: (sign ++ (digits ++ rest))) = .ok ((), rest) := by
  unfold passExponent
  rw [bind_of_ok (skip_apply _ _), bind_of_ok (exponentSign_append isSign areDigits nonempty),
    bind_of_ok (atDigit_append areDigits ends.endsDigits), if_pos (by simpa using nonempty),
    bind_of_ok (skipDigits_append areDigits ends.endsDigits)]
  rfl

/-- What is left of a number that has been passed over up to its exponent. -/
theorem passExponent?_apply {exponent : List Char} (isExponent : IsExponent exponent)
    (ends : Ends rest) :
    (do if ← atExponent then passExponent) (exponent ++ rest) = .ok ((), rest) := by
  cases isExponent with
  | none =>
      rw [List.nil_append, bind_of_ok ends.atExponent_apply]
      rfl
  | digits isLetter isSign nonempty areDigits =>
      rw [List.cons_append, bind_of_ok (atExponent_letter isLetter), List.append_assoc]
      exact passExponent_apply isSign areDigits nonempty ends

theorem passFraction_apply {exponent : List Char} (areDigits : AreDigits digits)
    (nonempty : digits ≠ []) (isExponent : IsExponent exponent) (ends : Ends rest) :
    passFraction ('.' :: (digits ++ (exponent ++ rest))) = .ok ((), rest) := by
  unfold passFraction
  rw [bind_of_ok (skip_apply _ _),
    bind_of_ok (skipDigits_append areDigits (ends.exponent isExponent)),
    if_neg (by simpa using nonempty)]
  exact passExponent?_apply isExponent ends

/-- What is left of a number that has been passed over up to its fraction. -/
theorem passFraction?_apply {fraction exponent : List Char} (isFraction : IsFraction fraction)
    (isExponent : IsExponent exponent) (ends : Ends rest) :
    (do
      if (← peek?) = some '.' then passFraction
      else if ← atExponent then passExponent) (fraction ++ exponent ++ rest) = .ok ((), rest) := by
  rw [List.append_assoc, bind_of_ok (peek?_apply _)]
  cases isFraction with
  | none =>
      rw [List.nil_append, if_neg (head?_exponent_ne isExponent ends)]
      exact passExponent?_apply isExponent ends
  | digits nonempty areDigits =>
      rw [List.cons_append, if_pos List.head?_cons]
      exact passFraction_apply areDigits nonempty isExponent ends

theorem passMagnitude_apply {whole fraction exponent : List Char} (isWhole : IsWhole whole)
    (isFraction : IsFraction fraction) (isExponent : IsExponent exponent) (ends : Ends rest) :
    passMagnitude (whole ++ (fraction ++ exponent ++ rest)) = .ok ((), rest) := by
  have tailEnds := ends.fraction isFraction isExponent
  have further := passFraction?_apply isFraction isExponent ends
  unfold passMagnitude
  cases isWhole with
  | zero =>
      rw [List.cons_append, List.nil_append, bind_of_ok (skipIf_same _ _), if_pos rfl,
        bind_of_ok tailEnds.atDigit_apply, if_neg Bool.false_ne_true]
      exact further
  | @digits first others digit leading digits =>
      have areDigits : AreDigits (first :: others) := List.forall_mem_cons.mpr ⟨digit, digits⟩
      rw [bind_of_ok (skipIf_other (by simpa using leading)), if_neg Bool.false_ne_true,
        bind_of_ok (skipDigits_append areDigits tailEnds), if_neg (by simp)]
      exact further

/-- A numeral of any size is passed over. -/
theorem passNumber_apply {numeral : List Char} (isNumeral : IsNumeral numeral) (ends : Ends rest) :
    passNumber (numeral ++ rest) = .ok ((), rest) := by
  unfold passNumber
  cases isNumeral with
  | positive isWhole isFraction isExponent =>
      rw [List.append_assoc, bind_of_ok (skipIf_other (head?_whole_ne isWhole))]
      exact passMagnitude_apply isWhole isFraction isExponent ends
  | negative isWhole isFraction isExponent =>
      rw [List.cons_append, List.append_assoc, bind_of_ok (skipIf_same _ _)]
      exact passMagnitude_apply isWhole isFraction isExponent ends

end Reader

end Lindenmayer.Json
