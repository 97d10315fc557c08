import Lindenmayer.Json.Skipping
import Lindenmayer.Proofs.Json.Steps

/-!
# Strings as they are written and read

A written string stands for at most one text, and this is the text that is read. A string that
is merely passed over need not stand for any.
-/

namespace Lindenmayer.Json

/-! ## At most one text -/

theorem shortEscape?_ne_numeric {letter char : Char}
    (known : Reader.shortEscape? letter = some char) : letter ≠ 'u' := by
  rintro rfl
  simp [Reader.shortEscape?] at known

/-- Digits that give a number are determined by what they begin. -/
theorem IsCodeUnit.unique {digits others rest further : List Char} {unit other : Nat}
    (first : IsCodeUnit digits unit) (second : IsCodeUnit others other)
    (same : digits ++ rest = others ++ further) : unit = other ∧ rest = further := by
  rcases first with ⟨length, number⟩
  rcases second with ⟨otherLength, otherNumber⟩
  rcases List.append_inj same (length.trans otherLength.symm) with ⟨rfl, sameRest⟩
  rw [number] at otherNumber
  exact ⟨Option.some.inj otherNumber, sameRest⟩

theorem isWritten_of_plain {written : List Char} (plain : written.all (IsPlain ·)) :
    IsWritten written := by
  induction written with
  | nil => exact .nil
  | cons char rest inductionHypothesis =>
      rw [List.all_cons, Bool.and_eq_true, decide_eq_true_eq] at plain
      exact .plain plain.1 (inductionHypothesis plain.2)

/-- Where nothing is escaped, a text is written as it is. -/
theorem denotes_of_plain {written : List Char} (plain : written.all (IsPlain ·)) :
    Denotes written written := by
  induction written with
  | nil => exact .nil
  | cons char rest inductionHypothesis =>
      rw [List.all_cons, Bool.and_eq_true, decide_eq_true_eq] at plain
      exact .plain plain.1 (inductionHypothesis plain.2)

namespace Denotes

variable {char : Char} {written rest text : List Char}

theorem of_nil (denotes : Denotes [] text) : text = [] := by
  cases denotes
  rfl

theorem of_plain (isPlain : IsPlain char) (denotes : Denotes (char :: rest) text) :
    ∃ further, text = char :: further ∧ Denotes rest further := by
  cases denotes with
  | plain _ denotes => exact ⟨_, rfl, denotes⟩
  | short _ _ => exact absurd rfl isPlain.2.1
  | numeric _ _ _ _ => exact absurd rfl isPlain.2.1
  | pair _ _ _ _ _ => exact absurd rfl isPlain.2.1

theorem of_short {letter : Char} (known : Reader.shortEscape? letter = some char)
    (denotes : Denotes ('\\' :: letter :: rest) text) :
    ∃ further, text = char :: further ∧ Denotes rest further := by
  have notNumeric := shortEscape?_ne_numeric known
  cases denotes with
  | plain isPlain _ => exact absurd rfl isPlain.2.1
  | short otherKnown denotes =>
      rw [known] at otherKnown
      cases otherKnown
      exact ⟨_, rfl, denotes⟩
  | numeric _ _ _ _ => exact absurd rfl notNumeric
  | pair _ _ _ _ _ => exact absurd rfl notNumeric

theorem of_numeric {digits : List Char} {unit : Nat} (isCodeUnit : IsCodeUnit digits unit)
    (noLead : Reader.isLeadSurrogate unit = false)
    (denotes : Denotes ('\\' :: 'u' :: (digits ++ rest)) text) :
    ∃ further, text = Char.ofNat unit :: further ∧ Denotes rest further := by
  generalize same : '\\' :: 'u' :: (digits ++ rest) = written at denotes
  cases denotes with
  | nil => cases same
  | plain isPlain _ =>
      cases same
      exact absurd rfl isPlain.2.1
  | short known _ =>
      cases same
      exact absurd rfl (shortEscape?_ne_numeric known)
  | numeric otherUnit _ _ denotes =>
      simp only [List.cons.injEq, true_and] at same
      rcases isCodeUnit.unique otherUnit same with ⟨rfl, rfl⟩
      exact ⟨_, rfl, denotes⟩
  | pair leadUnit isLead _ _ _ =>
      simp only [List.cons.injEq, true_and] at same
      rcases isCodeUnit.unique leadUnit same with ⟨rfl, _⟩
      rw [noLead] at isLead
      cases isLead

theorem of_pair {leadDigits trailDigits : List Char} {lead trail : Nat}
    (leadUnit : IsCodeUnit leadDigits lead) (isLead : Reader.isLeadSurrogate lead)
    (trailUnit : IsCodeUnit trailDigits trail)
    (denotes : Denotes
      ('\\' :: 'u' :: (leadDigits ++ '\\' :: 'u' :: (trailDigits ++ rest))) text) :
    ∃ further,
      text = Char.ofNat (0x10000 + (lead - 0xD800) * 0x400 + (trail - 0xDC00)) :: further ∧
        Denotes rest further := by
  generalize same :
    '\\' :: 'u' :: (leadDigits ++ '\\' :: 'u' :: (trailDigits ++ rest)) = written at denotes
  cases denotes with
  | nil => cases same
  | plain isPlain _ =>
      cases same
      exact absurd rfl isPlain.2.1
  | short known _ =>
      cases same
      exact absurd rfl (shortEscape?_ne_numeric known)
  | numeric otherUnit noLead _ _ =>
      simp only [List.cons.injEq, true_and] at same
      rcases leadUnit.unique otherUnit same with ⟨rfl, _⟩
      rw [noLead] at isLead
      cases isLead
  | pair otherLead _ otherTrail _ denotes =>
      simp only [List.cons.injEq, true_and] at same
      rcases leadUnit.unique otherLead same with ⟨rfl, sameTrail⟩
      simp only [List.cons.injEq, true_and] at sameTrail
      rcases trailUnit.unique otherTrail sameTrail with ⟨rfl, rfl⟩
      exact ⟨_, rfl, denotes⟩

/-- What is written between quotes stands for one text at most. -/
theorem unique {other : List Char} (first : Denotes written text)
    (second : Denotes written other) : text = other := by
  induction first generalizing other with
  | nil => exact second.of_nil.symm
  | plain isPlain _ inductionHypothesis =>
      rcases second.of_plain isPlain with ⟨further, rfl, denotes⟩
      rw [inductionHypothesis denotes]
  | short known _ inductionHypothesis =>
      rcases second.of_short known with ⟨further, rfl, denotes⟩
      rw [inductionHypothesis denotes]
  | numeric isCodeUnit noLead _ _ inductionHypothesis =>
      rcases second.of_numeric isCodeUnit noLead with ⟨further, rfl, denotes⟩
      rw [inductionHypothesis denotes]
  | pair leadUnit isLead trailUnit _ _ inductionHypothesis =>
      rcases second.of_pair leadUnit isLead trailUnit with ⟨further, rfl, denotes⟩
      rw [inductionHypothesis denotes]

end Denotes

namespace Reader

/-! ## The text that is read -/

theorem length_le_utf8ByteSize (chars : List Char) :
    chars.length ≤ (String.ofList chars).utf8ByteSize := by
  induction chars with
  | nil => simp
  | cons char chars inductionHypothesis =>
      have positive := Char.utf8Size_pos char
      simp only [List.length_cons, String.ofList_cons, String.utf8ByteSize_append,
        String.utf8ByteSize_singleton]
      omega

theorem fourHexDigits_apply {digits rest : List Char} {unit : Nat}
    (isCodeUnit : IsCodeUnit digits unit) :
    fourHexDigits (digits ++ rest) = .ok (unit, rest) := by
  rcases isCodeUnit with ⟨length, number⟩
  have taken : (digits ++ rest).take 4 = digits := by
    rw [← length, List.take_left]
  have dropped : (digits ++ rest).drop 4 = rest := by
    rw [← length, List.drop_left]
  have long : isShort 4 (digits ++ rest) = false := by
    have size := length_le_utf8ByteSize digits
    rw [isShort, taken, decide_eq_false_iff_not]
    omega
  unfold fourHexDigits
  rw [bind_of_ok (get_apply _)]
  simp only [long, taken, number, dropped]
  rfl

/-- The second half of a pair is only looked for after a backslash and the letter for numbers. -/
theorem pairCharacter_eq_ok {expected char : Char} {rest : List Char} {result : Unit × List Char}
    (ended : pairCharacter expected (char :: rest) = .ok result) :
    char = expected ∧ result.2 = rest := by
  unfold pairCharacter at ended
  rw [bind_of_ok (peek?_apply _)] at ended
  simp only [List.head?_cons] at ended
  split at ended
  · rename_i same
    cases ended
    exact ⟨same, rfl⟩
  · cases ended

/--
What a numeric escape leaves is again written. Only if two escapes in a row are halves of one
character does it take both.
-/
theorem numericEscape_eq_ok {digits further rest : List Char} {unit : Nat}
    {result : Char × List Char} (isCodeUnit : IsCodeUnit digits unit) (written : IsWritten further)
    (ended : numericEscape (digits ++ (further ++ '"' :: rest)) = .ok result) :
    ∃ left, result.2 = left ++ '"' :: rest ∧ IsWritten left ∧
      ∀ text, Denotes left text →
        Denotes ('\\' :: 'u' :: (digits ++ further)) (result.1 :: text) := by
  unfold numericEscape at ended
  rw [bind_of_ok (fourHexDigits_apply isCodeUnit)] at ended
  split at ended
  · cases ended
  · rename_i noTrail
    split at ended
    · rename_i isLead
      rcases bind_eq_ok_iff.mp ended with ⟨_, afterBackslash, backslash, ended⟩
      rcases bind_eq_ok_iff.mp ended with ⟨_, afterLetter, letter, ended⟩
      -- After the first half of a pair everything but another numeric escape is refused.
      cases written with
      | nil => exact absurd (pairCharacter_eq_ok backslash).1 (by decide)
      | plain isPlain _ => exact absurd (pairCharacter_eq_ok backslash).1 isPlain.2.1
      | short known _ =>
          rcases pairCharacter_eq_ok backslash with ⟨_, rfl⟩
          exact absurd (pairCharacter_eq_ok letter).1 (shortEscape?_ne_numeric known)
      | @numeric trailDigits left trail trailUnit written =>
          rw [List.cons_append, List.cons_append, List.append_assoc] at backslash
          rcases pairCharacter_eq_ok backslash with ⟨_, rfl⟩
          rcases pairCharacter_eq_ok letter with ⟨_, rfl⟩
          rw [bind_of_ok (fourHexDigits_apply trailUnit)] at ended
          split at ended
          · rename_i isTrail
            rcases pure_eq_ok_iff.mp ended with rfl
            refine ⟨left, rfl, written, ?_⟩
            intro text denotes
            dsimp only
            exact .pair isCodeUnit isLead trailUnit isTrail denotes
          · cases ended
    · rename_i noLead
      rcases pure_eq_ok_iff.mp ended with rfl
      exact ⟨further, rfl, written, fun text denotes =>
        .numeric isCodeUnit (by simpa using noLead) (by simpa using noTrail) denotes⟩

theorem stringItem_plain {char : Char} {rest : List Char} (isPlain : IsPlain char) :
    stringItem (char :: rest) = .ok (some char, rest) := by
  rcases isPlain with ⟨notQuote, notBackslash, notControl⟩
  unfold stringItem
  rw [bind_of_ok (peek?_apply _)]
  simp only [List.head?_cons, notControl]
  rfl

theorem stringItem_backslash (rest : List Char) :
    stringItem ('\\' :: rest) = (escape numericEscape >>= fun char => pure (some char)) rest :=
  rfl

theorem escape_short {numeric : Reader Char} {letter char : Char} {rest : List Char}
    (known : shortEscape? letter = some char) :
    escape numeric (letter :: rest) = .ok (char, rest) := by
  unfold escape
  rw [bind_of_ok (peek?_apply _)]
  have notNumeric := shortEscape?_ne_numeric known
  simp only [List.head?_cons, known]
  rfl

theorem escape_numeric (numeric : Reader Char) (rest : List Char) :
    escape numeric ('u' :: rest) = numeric rest :=
  rfl

/-- One character is taken off a written string, or its closing quote if nothing is left of it. -/
theorem stringItem_eq_ok {written rest : List Char} {result : Option Char × List Char}
    (isWritten : IsWritten written)
    (ended : stringItem (written ++ '"' :: rest) = .ok result) :
    (written = [] ∧ result = (none, rest)) ∨
      ∃ char left, result = (some char, left ++ '"' :: rest) ∧ IsWritten left ∧
        ∀ text, Denotes left text → Denotes written (char :: text) := by
  cases isWritten with
  | nil =>
      cases ended
      exact .inl ⟨rfl, rfl⟩
  | @plain char left isPlain isWritten =>
      rw [List.cons_append, stringItem_plain isPlain] at ended
      cases ended
      exact .inr ⟨char, left, rfl, isWritten, fun text => .plain isPlain⟩
  | @short letter char left known isWritten =>
      rw [List.cons_append, List.cons_append, stringItem_backslash,
        bind_of_ok (escape_short known)] at ended
      cases ended
      exact .inr ⟨char, left, rfl, isWritten, fun text => .short known⟩
  | numeric isCodeUnit isWritten =>
      rw [List.cons_append, List.cons_append, List.append_assoc, stringItem_backslash] at ended
      rcases bind_eq_ok_iff.mp ended with ⟨char, _, escaped, returned⟩
      rw [escape_numeric] at escaped
      rcases numericEscape_eq_ok isCodeUnit isWritten escaped with ⟨left, rfl, leftWritten, denotes⟩
      cases returned
      exact .inr ⟨char, left, rfl, leftWritten, denotes⟩

theorem stringChars_eq_ok {written rest : List Char} {fuel : Nat} {result : List Char × List Char}
    (isWritten : IsWritten written)
    (ended : stringChars fuel (written ++ '"' :: rest) = .ok result) :
    Denotes written result.1 ∧ result.2 = rest := by
  induction fuel generalizing written result with
  | zero => cases ended
  | succ fuel inductionHypothesis =>
      unfold stringChars at ended
      rcases bind_eq_ok_iff.mp ended with ⟨item, _, taken, continued⟩
      rcases stringItem_eq_ok isWritten taken with
        ⟨rfl, same⟩ | ⟨char, left, same, leftWritten, denotes⟩
      · cases same
        rcases pure_eq_ok_iff.mp continued with rfl
        exact ⟨.nil, rfl⟩
      · cases same
        rcases bind_eq_ok_iff.mp continued with ⟨text, _, further, returned⟩
        rcases inductionHypothesis leftWritten further with ⟨leftDenotes, rfl⟩
        rcases pure_eq_ok_iff.mp returned with rfl
        exact ⟨denotes text leftDenotes, rfl⟩

/-- What is read of a written string is what it stands for. -/
theorem stringBody_eq_ok {written rest : List Char} {result : String × List Char}
    (isWritten : IsWritten written)
    (ended : stringBody (written ++ '"' :: rest) = .ok result) :
    Denotes written result.1.toList ∧ result.2 = rest := by
  unfold stringBody at ended
  rw [bind_of_ok (get_apply _)] at ended
  rcases bind_eq_ok_iff.mp ended with ⟨text, _, chars, returned⟩
  rcases stringChars_eq_ok isWritten chars with ⟨denotes, rfl⟩
  rcases pure_eq_ok_iff.mp returned with rfl
  rw [String.toList_ofList]
  exact ⟨denotes, rfl⟩

/-! ## Strings that are passed over -/

theorem passStringItem_plain {char : Char} {rest : List Char} (isPlain : IsPlain char) :
    passStringItem (char :: rest) = .ok (true, rest) := by
  rcases isPlain with ⟨notQuote, notBackslash, notControl⟩
  unfold passStringItem
  rw [bind_of_ok (peek?_apply _)]
  simp only [List.head?_cons, notControl]
  rfl

theorem passStringItem_quote (rest : List Char) :
    passStringItem ('"' :: rest) = .ok (false, rest) :=
  rfl

theorem passStringItem_short {letter char : Char} {rest : List Char}
    (known : shortEscape? letter = some char) :
    passStringItem ('\\' :: letter :: rest) = .ok (true, rest) := by
  change (escape _ >>= fun _ => pure true) (letter :: rest) = _
  rw [bind_of_ok (escape_short known)]
  rfl

/-- A numeric escape is passed over without regard to what it is half of. -/
theorem passStringItem_numeric {digits rest : List Char} {unit : Nat}
    (isCodeUnit : IsCodeUnit digits unit) :
    passStringItem ('\\' :: 'u' :: (digits ++ rest)) = .ok (true, rest) := by
  change ((fourHexDigits >>= fun _ => pure ' ') >>= fun _ => pure true) (digits ++ rest) = _
  rw [bind_assoc, bind_of_ok (fourHexDigits_apply isCodeUnit)]
  rfl

theorem passStringChars_apply {written rest : List Char} {fuel : Nat}
    (isWritten : IsWritten written) (enough : written.length < fuel) :
    passStringChars fuel (written ++ '"' :: rest) = .ok ((), rest) := by
  induction fuel generalizing written with
  | zero => contradiction
  | succ fuel inductionHypothesis =>
      unfold passStringChars
      cases isWritten with
      | nil =>
          rw [List.nil_append, bind_of_ok (passStringItem_quote _)]
          rfl
      | plain isPlain isWritten =>
          simp only [List.length_cons] at enough
          rw [List.cons_append, bind_of_ok (passStringItem_plain isPlain)]
          exact inductionHypothesis isWritten (by omega)
      | short known isWritten =>
          simp only [List.length_cons] at enough
          rw [List.cons_append, List.cons_append, bind_of_ok (passStringItem_short known)]
          exact inductionHypothesis isWritten (by omega)
      | numeric isCodeUnit isWritten =>
          simp only [List.length_cons, List.length_append] at enough
          rw [List.cons_append, List.cons_append, List.append_assoc,
            bind_of_ok (passStringItem_numeric isCodeUnit)]
          exact inductionHypothesis isWritten (by omega)

theorem passString_apply {written rest : List Char} (isWritten : IsWritten written) :
    passString (written ++ '"' :: rest) = .ok ((), rest) := by
  unfold passString
  rw [bind_of_ok (bound_apply _)]
  apply passStringChars_apply isWritten
  simp only [List.length_append]
  omega

end Reader

end Lindenmayer.Json
