import Lindenmayer.Proofs.Json.Numerals
import Lindenmayer.Proofs.Json.Reading

/-!
# What is written is read back

A value is written without blanks and its end shows in what comes after it: a number is
followed by something that does not continue it. So each reader takes off what has been
written for it, and leaves the rest of the text alone. For lists, tables and records this
follows from the same fact about their parts. Texts come back whatever characters they
hold. Only for floating-point numbers is it left open whether they come back, since their
numerals are not read exactly.
-/

namespace Lindenmayer.Json

open Value (escapedChar)

namespace Reader

variable {α β : Type} {reader : Reader α} {chars : List Char} {value : α}

/-- Whether a reader takes characters off as a value, whatever comes after them. -/
def Takes (reader : Reader α) (chars : List Char) (value : α) : Prop :=
  ∀ ⦃rest⦄, Ends rest → reader (chars ++ rest) = .ok (value, rest)

theorem Takes.map (takes : Takes reader chars value) (build : α → β) :
    Takes (reader >>= fun value => pure (build value)) chars (build value) := by
  intro rest ends
  rw [bind_of_ok (takes ends)]
  rfl

/-- What is taken off a text as a whole is read as the value. -/
theorem Takes.run_eq_ok (takes : Takes reader chars value) :
    run reader (String.ofList chars) = .ok value := by
  have taken := takes Ends.nil
  rw [List.append_nil] at taken
  unfold run
  simp only [String.toList_ofList]
  rw [bind_of_ok taken]
  rfl

/-! ## Texts -/

theorem hexDigit?_hexDigit (count : Nat) :
    hexDigit? (Value.hexDigit count) = some (count % 16) := by
  have digits : ∀ digit < 16,
      hexDigit? ((Nat.toDigits 16 digit).headD '0') = some digit := by decide
  exact digits (count % 16) (Nat.mod_lt _ (by decide))

theorem isCodeUnit_hexDigits {count : Nat} (small : count < 256) :
    IsCodeUnit ['0', '0', Value.hexDigit (count / 16), Value.hexDigit count] count := by
  have zero : hexDigit? '0' = some 0 := by decide
  refine ⟨rfl, ?_⟩
  simp only [hexNumber?, List.foldlM_cons, List.foldlM_nil, zero, hexDigit?_hexDigit,
    Option.map_some, Option.bind_eq_bind, Option.bind_some]
  change some _ = some _
  rw [Option.some_inj]
  omega

theorem numericEscape_apply {digits : List Char} {unit : Nat} (isCodeUnit : IsCodeUnit digits unit)
    (noLead : isLeadSurrogate unit = false) (noTrail : isTrailSurrogate unit = false)
    (rest : List Char) : numericEscape (digits ++ rest) = .ok (Char.ofNat unit, rest) := by
  unfold numericEscape
  rw [bind_of_ok (fourHexDigits_apply isCodeUnit), noTrail, noLead]
  rfl

theorem stringItem_control {char : Char} (small : isControl char) (rest : List Char) :
    stringItem (['\\', 'u', '0', '0', Value.hexDigit (char.toNat / 16),
      Value.hexDigit char.toNat] ++ rest) = .ok (some char, rest) := by
  have below : char.toNat < 0x20 := by simpa [isControl] using small
  have isCodeUnit := isCodeUnit_hexDigits (by omega : char.toNat < 256)
  have noLead : isLeadSurrogate char.toNat = false := by
    rw [isLeadSurrogate, decide_eq_false (by omega), Bool.false_and]
  have noTrail : isTrailSurrogate char.toNat = false := by
    rw [isTrailSurrogate, decide_eq_false (by omega), Bool.false_and]
  have escaped := numericEscape_apply isCodeUnit noLead noTrail rest
  rw [Char.ofNat_toNat, ← escape_numeric numericEscape] at escaped
  rw [List.cons_append, List.cons_append, stringItem_backslash, bind_of_ok escaped]
  rfl

/-- However a character is written, it is read back. -/
theorem stringItem_escapedChar (char : Char) (rest : List Char) :
    stringItem (escapedChar char ++ rest) = .ok (some char, rest) := by
  unfold escapedChar
  split
  · rfl
  · rfl
  · rfl
  · rfl
  · rfl
  · rfl
  · rfl
  · rename_i notQuote notBackslash _ _ _ _ _
    split
    · rename_i isControl
      exact stringItem_control isControl rest
    · rename_i notControl
      exact stringItem_plain ⟨notQuote, notBackslash, by simpa using notControl⟩

theorem stringChars_escaped (text rest : List Char) {fuel : Nat} (enough : text.length < fuel) :
    stringChars fuel (text.flatMap escapedChar ++ '"' :: rest) = .ok (text, rest) := by
  induction text generalizing fuel with
  | nil =>
      rcases fuel with _ | fuel
      · contradiction
      · rfl
  | cons char text inductionHypothesis =>
      rcases fuel with _ | fuel
      · contradiction
      · rw [List.flatMap_cons, List.append_assoc]
        unfold stringChars
        rw [bind_of_ok (stringItem_escapedChar char _)]
        change (stringChars fuel >>= _) _ = _
        rw [bind_of_ok (inductionHypothesis (Nat.lt_of_succ_lt_succ enough))]
        rfl

theorem length_le_flatMap_escapedChar (text : List Char) :
    text.length ≤ (text.flatMap escapedChar).length := by
  induction text with
  | nil => exact Nat.le_refl _
  | cons char text inductionHypothesis =>
      have nonempty : 0 < (escapedChar char).length := by
        unfold escapedChar
        split <;> try simp
        split <;> simp
      rw [List.flatMap_cons, List.length_append, List.length_cons]
      omega

theorem stringBody_escaped (text : String) (rest : List Char) :
    stringBody (text.toList.flatMap escapedChar ++ '"' :: rest) = .ok (text, rest) := by
  unfold stringBody
  rw [bind_of_ok (get_apply _)]
  have short := length_le_flatMap_escapedChar text.toList
  rw [bind_of_ok (stringChars_escaped text.toList rest ?_)]
  · change Except.ok (String.ofList text.toList, rest) = _
    rw [String.ofList_toList]
  · rw [List.length_append]
    omega

theorem chars_string_append (text : String) (rest : List Char) :
    (Value.string text).chars ++ rest =
      '"' :: (text.toList.flatMap escapedChar ++ '"' :: rest) := by
  simp [Value.chars, Value.stringChars]

theorem peekValue_first {first : Char} (notBlank : isBlank first = false) (rest : List Char) :
    peekValue (first :: rest) = .ok (first, first :: rest) :=
  peekValue_blanks (List.forall_mem_nil _) notBlank

theorem takes_text (text : String) : Takes Reader.text (Value.string text).chars text := by
  intro rest _
  rw [chars_string_append]
  unfold Reader.text
  rw [bind_of_ok (peekValue_first (by decide) _)]
  change (skip >>= fun _ => stringBody) _ = _
  rw [bind_of_ok (skip_apply _ _)]
  exact stringBody_escaped text rest

/-! ## Numbers -/

/-- Whether the numeral that is written for a number is read as this number. -/
def IsReadBack (number : Float) : Prop :=
  (run float (Value.float number).text).toOption = some number

instance : DecidablePred IsReadBack := fun number =>
  inferInstanceAs (Decidable ((run float (Value.float number).text).toOption = some number))

theorem IsReadBack.run_eq_ok {number : Float} (isReadBack : IsReadBack number) :
    run float (Value.float number).text = .ok number := by
  unfold IsReadBack at isReadBack
  cases read : run float (Value.float number).text with
  | error problem => simp [read, Except.toOption] at isReadBack
  | ok other =>
      simp only [read, Except.toOption, Option.some.injEq] at isReadBack
      rw [isReadBack]

/-- Reading a floating-point number from a numeral is reading the numeral. -/
theorem float_numeral {numeral rest : List Char} (isNumeral : IsNumeral numeral) :
    float (numeral ++ rest) =
      (number >>= fun read => pure read.toFloat) (numeral ++ rest) := by
  rcases isNumeral.exists_first with ⟨first, others, rfl, begins⟩
  unfold float
  rw [List.cons_append, bind_of_ok (peekValue_first (beginsValue_of_beginsNumber begins).1 _),
    if_pos begins]

/-- A number that comes back alone comes back from within a text. -/
theorem takes_float {number : Float} (isReadBack : IsReadBack number) :
    Takes float (Value.float number).chars number := by
  rcases exists_of_run isReadBack.run_eq_ok with ⟨left, taken⟩
  rw [Value.text, String.toList_ofList] at taken
  simp only [Value.float, Value.chars, Number.chars] at taken ⊢
  cases written : Number.floatChars? number with
  | none =>
      rw [written] at taken
      cases taken
  | some numeral =>
      have isNumeral := isNumeral_floatChars written
      rw [written, Option.getD_some] at taken
      rw [Option.getD_some]
      rw [← List.append_nil numeral, float_numeral isNumeral] at taken
      rcases bind_eq_ok_iff.mp taken with ⟨read, further, whole, returned⟩
      rcases pure_eq_ok_iff.mp returned with ⟨⟩
      rcases number_settles isNumeral with ⟨outcome, settled⟩
      rcases (settled [] .nil _).mp whole with ⟨same, _⟩
      intro rest ends
      have within := (settled rest ends (read, rest)).mpr ⟨same, rfl⟩
      rw [float_numeral isNumeral, bind_of_ok within]
      rfl

theorem exists_first_toDigits (count : Nat) :
    ∃ first others, Nat.toDigits 10 count = first :: others ∧ beginsNumber first := by
  have areDigits := areDigits_toDigits count
  rcases digits : Nat.toDigits 10 count with _ | ⟨first, others⟩
  · exact absurd digits Nat.toDigits_ne_nil
  · rw [digits] at areDigits
    have isDigit := areDigits first List.mem_cons_self
    exact ⟨first, others, rfl, by simp [beginsNumber, isDigit]⟩

theorem takes_unsigned (value : UInt64) :
    Takes unsigned (Value.number (.unsigned value)).chars value := by
  intro rest ends
  have whole := number_toDigits value ends
  simp only [Value.chars, Number.chars]
  rcases exists_first_toDigits value.toNat with ⟨first, others, digits, begins⟩
  rw [digits, List.cons_append] at whole ⊢
  unfold unsigned
  rw [bind_of_ok (peekValue_first (beginsValue_of_beginsNumber begins).1 _), if_pos begins,
    bind_of_ok whole]
  rfl

/-! ## Beginnings and ends -/

theorem exists_first_number (number : Number) :
    ∃ first others, number.chars = first :: others ∧ BeginsValue first := by
  cases number with
  | unsigned value =>
      rcases exists_first_toDigits value.toNat with ⟨first, others, digits, begins⟩
      exact ⟨first, others, digits, beginsValue_of_beginsNumber begins⟩
  | negative magnitude => exact ⟨_, _, rfl, by decide, by decide⟩
  | float value =>
      simp only [Number.chars]
      cases written : Number.floatChars? value with
      | none => exact ⟨_, _, rfl, by decide, by decide⟩
      | some numeral =>
          rcases (isNumeral_floatChars written).exists_first with ⟨first, others, split, begins⟩
          exact ⟨first, others, split, beginsValue_of_beginsNumber begins⟩

theorem exists_first_chars (value : Value) :
    ∃ first others, value.chars = first :: others ∧ BeginsValue first := by
  cases value with
  | number value => exact exists_first_number value
  | boolean value => cases value <;> exact ⟨_, _, rfl, by decide, by decide⟩
  | _ => exact ⟨_, _, by simp only [Value.chars, List.cons_append]; rfl, by decide, by decide⟩

/-- Things written one after the other, with separators between them. -/
def separated (write : β → List Char) (isFirst : Bool) : List β → List Char
  | [] => []
  | item :: rest => separator isFirst ++ (write item ++ separated write false rest)

theorem ends_separated (write : β → List Char) (items : List β) {close : Char}
    (notContinuing : continuesNumber close = false) (rest : List Char) :
    Ends (separated write false items ++ close :: rest) := by
  cases items with
  | nil => exact .cons notContinuing
  | cons item items => exact .cons (by decide)

theorem length_le_separated {write : β → List Char} (nonempty : ∀ item, 0 < (write item).length)
    (isFirst : Bool) (items : List β) : items.length ≤ (separated write isFirst items).length := by
  induction items generalizing isFirst with
  | nil => exact Nat.le_refl _
  | cons item items inductionHypothesis =>
      have further := inductionHypothesis false
      have some := nonempty item
      simp only [separated, List.length_append, List.length_cons]
      omega

theorem elementChars_eq (elements : List Value) :
    Value.elementChars elements = separated Value.chars true elements := by
  induction elements with
  | nil => rfl
  | cons element rest inductionHypothesis =>
      cases rest with
      | nil => simp [Value.elementChars, separated, separator]
      | cons next rest =>
          rw [Value.elementChars, inductionHypothesis]
          simp [separated, separator]

def oneMemberChars (member : String × Value) : List Char :=
  Value.stringChars member.1 ++ ':' :: member.2.chars

theorem memberChars_eq (members : List (String × Value)) :
    Value.memberChars members = separated oneMemberChars true members := by
  induction members with
  | nil => rfl
  | cons member rest inductionHypothesis =>
      cases rest with
      | nil => simp [Value.memberChars, separated, separator, oneMemberChars]
      | cons next rest =>
          rw [Value.memberChars, inductionHypothesis]
          simp [separated, separator, oneMemberChars]

theorem chars_list_append (elements : List Value) (rest : List Char) :
    (Value.list elements).chars ++ rest =
      '[' :: (separated Value.chars true elements ++ ']' :: rest) := by
  simp [Value.chars, elementChars_eq]

theorem chars_object_append (members : List (String × Value)) (rest : List Char) :
    (Value.object members).chars ++ rest =
      '\x7b' :: (separated oneMemberChars true members ++ '\x7d' :: rest) := by
  simp [Value.chars, memberChars_eq]

theorem head?_chars_list (elements : List Value) :
    (Value.list elements).chars.head? = some '[' := by
  simp [Value.chars]

theorem head?_chars_object (members : List (String × Value)) :
    (Value.object members).chars.head? = some '\x7b' := by
  simp [Value.chars]

theorem head?_chars_unsigned_ne (value : UInt64) :
    (Value.number (.unsigned value)).chars.head? ≠ some 'n' := by
  rcases exists_first_toDigits value.toNat with ⟨first, others, digits, begins⟩
  simp only [Value.chars, Number.chars, digits, List.head?_cons]
  rintro ⟨⟩
  simp [beginsNumber] at begins

/-! ## Optional values, lists and objects -/

theorem takes_optional {item : Reader α} {encode : α → Value}
    (notNull : ∀ value, (encode value).chars.head? ≠ some 'n') {value? : Option α}
    (taken : ∀ value ∈ value?, Takes item (encode value).chars value) :
    Takes (optional item) (Value.optional encode value?).chars value? := by
  intro rest ends
  cases value? with
  | none => rfl
  | some value =>
      have whole := taken value rfl ends
      have first_ne := notNull value
      change optional item ((encode value).chars ++ rest) = _
      rcases exists_first_chars (encode value) with ⟨first, others, split, notBlank, _⟩
      rw [split] at whole first_ne ⊢
      rw [List.cons_append] at whole ⊢
      have noBlanks : skipBlanks (first :: (others ++ rest)) =
          .ok ((), first :: (others ++ rest)) := skipBlanks_blanks (List.forall_mem_nil _) notBlank
      unfold optional
      rw [bind_of_ok noBlanks, bind_of_ok (peek?_apply _), if_neg (by simpa using first_ne),
        bind_of_ok whole]
      rfl

theorem nested_apply {levels : Nat} {move : List Char → List Char} {close : Reader Unit}
    {body : (levels : Nat) → Reader α} {bracket : Char} {text left rest : List Char}
    (taken : body levels text = .ok (value, left)) (closed : close left = .ok ((), rest)) :
    nested (levels + 1)
      (fun levels => do skip; let value ← placing move (body levels); close; return value)
      (bracket :: text) = .ok (value, rest) := by
  change (skip >>= _) (bracket :: text) = _
  rw [bind_of_ok (skip_apply _ _), bind_of_ok (placing_eq_ok_iff.mpr taken), bind_of_ok closed]
  rfl

theorem inList_apply {levels : Nat} {body : (levels : Nat) → Reader α} {text rest : List Char}
    (taken : body levels text = .ok (value, ']' :: rest)) :
    inList (levels + 1) body ('[' :: text) = .ok (value, rest) :=
  nested_apply taken rfl

theorem inObject_apply {levels : Nat} {body : (levels : Nat) → Reader α} {text rest : List Char}
    (taken : body levels text = .ok (value, '\x7d' :: rest)) :
    inObject (levels + 1) body ('\x7b' :: text) = .ok (value, rest) :=
  nested_apply taken rfl

theorem nextElement_chars (isFirst : Bool) (written : Value) (rest : List Char) :
    nextElement isFirst (separator isFirst ++ (written.chars ++ rest)) =
      .ok (true, written.chars ++ rest) := by
  rcases exists_first_chars written with ⟨first, others, split, begins⟩
  rw [split]
  exact nextElement_begins (List.forall_mem_nil _) (List.forall_mem_nil _) begins

/-- An element that must be there is taken off where it has been written. -/
theorem required_apply {item : Reader α} {written : Value} {rest : List Char}
    (taken : Takes item written.chars value) (ends : Ends rest) (index : Nat) (expected : String) :
    required index expected item (separator (index = 0) ++ (written.chars ++ rest)) =
      .ok (value, rest) := by
  unfold required
  rw [bind_of_ok (nextElement_chars _ written rest), if_pos rfl]
  exact taken ends

theorem elements_apply {item : Reader α} {written : List Value} {values : List α}
    (taken : List.Forall₂ (fun element => Takes item element.chars) written values) {fuel : Nat}
    (enough : written.length < fuel) (isFirst : Bool) (rest : List Char) :
    elements item fuel isFirst (separated Value.chars isFirst written ++ ']' :: rest) =
      .ok (values, ']' :: rest) := by
  induction taken generalizing fuel isFirst with
  | nil =>
      rcases fuel with _ | fuel
      · contradiction
      · unfold elements
        have last : nextElement isFirst (']' :: rest) = .ok (false, ']' :: rest) :=
          nextElement_last (List.forall_mem_nil _)
        change (nextElement isFirst >>= _) (']' :: rest) = _
        rw [bind_of_ok last]
        rfl
  | @cons element value others values elementTaken othersTaken inductionHypothesis =>
      rcases fuel with _ | fuel
      · contradiction
      · have closes : continuesNumber ']' = false := by decide
        have ends := ends_separated Value.chars others closes rest
        have further := inductionHypothesis (Nat.lt_of_succ_lt_succ enough) false
        unfold elements
        simp only [separated, List.append_assoc]
        rw [bind_of_ok (nextElement_chars isFirst element _), if_pos rfl,
          bind_of_ok (elementTaken ends), bind_of_ok further]
        rfl

theorem nextKey?_oneMember (isFirst : Bool) (key : String) (written : Value) (rest : List Char) :
    nextKey? isFirst (separator isFirst ++ (oneMemberChars (key, written) ++ rest)) =
      .ok (some key, ':' :: (written.chars ++ rest)) := by
  have opened : oneMemberChars (key, written) ++ rest =
      '"' :: (key.toList.flatMap escapedChar ++ '"' :: ':' :: (written.chars ++ rest)) := by
    simp [oneMemberChars, Value.stringChars]
  have taken : nextKey? isFirst ([] ++ (separator isFirst ++ ([] ++ '"' ::
      (key.toList.flatMap escapedChar ++ '"' :: ':' :: (written.chars ++ rest))))) = _ :=
    nextKey?_next (List.forall_mem_nil _) (List.forall_mem_nil _)
  rw [List.nil_append, List.nil_append] at taken
  rw [opened, taken, bind_of_ok (stringBody_escaped key _)]
  rfl

theorem colon_first (rest : List Char) : colon (':' :: rest) = .ok ((), rest) :=
  colon_apply (List.forall_mem_nil _)

theorem nextKey?_end (isFirst : Bool) (rest : List Char) :
    nextKey? isFirst ('\x7d' :: rest) = .ok (none, '\x7d' :: rest) :=
  nextKey?_last (List.forall_mem_nil _)

theorem members_apply {item : Reader α} {written : List (String × Value)}
    {entries : List (String × α)}
    (taken : List.Forall₂ (fun member entry =>
      member.1 = entry.1 ∧ Takes item member.2.chars entry.2) written entries) {fuel : Nat}
    (enough : written.length < fuel) (isFirst : Bool) (rest : List Char) :
    members item fuel isFirst (separated oneMemberChars isFirst written ++ '\x7d' :: rest) =
      .ok (entries, '\x7d' :: rest) := by
  induction taken generalizing fuel isFirst with
  | nil =>
      rcases fuel with _ | fuel
      · contradiction
      · unfold members
        change (nextKey? isFirst >>= _) ('\x7d' :: rest) = _
        rw [bind_of_ok (nextKey?_end isFirst rest)]
        rfl
  | @cons member entry others entries memberTaken othersTaken inductionHypothesis =>
      rcases member with ⟨key, written⟩
      rcases entry with ⟨_, value⟩
      rcases memberTaken with ⟨rfl, valueTaken⟩
      rcases fuel with _ | fuel
      · contradiction
      · have ends := ends_separated oneMemberChars others
          (by decide : continuesNumber '\x7d' = false) rest
        have further := inductionHypothesis (Nat.lt_of_succ_lt_succ enough) false
        unfold members
        simp only [separated, List.append_assoc]
        rw [bind_of_ok (nextKey?_oneMember isFirst key written _)]
        change (colon >>= _) _ = _
        rw [bind_of_ok (colon_first _), bind_of_ok (valueTaken ends), bind_of_ok further]
        rfl

theorem length_lt_separated {write : β → List Char} (nonempty : ∀ item, 0 < (write item).length)
    (items : List β) (rest : List Char) :
    items.length < (separated write true items ++ rest).length + 1 := by
  have short := length_le_separated nonempty true items
  rw [List.length_append]
  omega

theorem length_oneMemberChars_pos (member : String × Value) :
    0 < (oneMemberChars member).length := by
  simp [oneMemberChars]

theorem length_chars_pos (written : Value) : 0 < written.chars.length := by
  rcases exists_first_chars written with ⟨first, others, split, _⟩
  rw [split]
  exact Nat.succ_pos _

theorem takes_table {levels : Nat} {item : (levels : Nat) → Reader α}
    {written : List (String × Value)} {entries : List (String × α)}
    (taken : List.Forall₂ (fun member entry =>
      member.1 = entry.1 ∧ Takes (item levels) member.2.chars entry.2) written entries) :
    Takes (table (levels + 1) item) (Value.object written).chars (.ofList entries) := by
  intro rest _
  rw [chars_object_append]
  unfold table
  rw [bind_of_ok (peekValue_first (by decide) _)]
  apply inObject_apply
  rw [bind_of_ok (bound_apply _), bind_of_ok (members_apply taken
    (length_lt_separated length_oneMemberChars_pos written _) true rest)]
  rfl

/-! ## Values of any kind -/

theorem takes_value_string (levels : Nat) (text : String) :
    Takes (Reader.value levels) (Value.string text).chars (.string text) := by
  have scalar (list object : Reader Value) :
      Takes (value.scalarOr list object) (Value.string text).chars (.string text) := by
    intro rest _
    rw [chars_string_append]
    unfold value.scalarOr
    rw [bind_of_ok (peekValue_first (by decide) _)]
    change (skip >>= fun _ => stringBody >>= _) _ = _
    rw [bind_of_ok (skip_apply _ _)]
    apply (bind_of_ok (stringBody_escaped text rest)).trans
    rfl
  cases levels <;> exact scalar _ _

theorem takes_value_list {levels : Nat} {written values : List Value}
    (taken : List.Forall₂ (fun element => Takes (Reader.value levels) element.chars)
      written values) :
    Takes (Reader.value (levels + 1)) (Value.list written).chars (.list values) := by
  intro rest _
  rw [chars_list_append]
  unfold Reader.value value.scalarOr
  rw [bind_of_ok (peekValue_first (by decide) _)]
  apply inList_apply
  rw [bind_of_ok (bound_apply _), bind_of_ok (elements_apply taken
    (length_lt_separated length_chars_pos written _) true rest)]
  rfl

end Reader

/-! ## Records -/

section Records

open Reader

variable {Draft α : Type} (shape : RecordShape Draft α)

/-- Whether members, as they are written, fill one field of a draft after the other. -/
inductive WritesMembers (levels : Nat) : List (String × Value) → Draft → Draft → Prop
  | nil (draft : Draft) : WritesMembers levels [] draft draft
  | cons {name : String} {written : Value} {others : List (String × Value)}
      {field : RecordField Draft} {draft next last : Draft}
      (known : shape.fields.find? (·.name = name) = some field)
      (fresh : field.given draft = false)
      (taken : Takes (field.read levels draft) written.chars next)
      (further : WritesMembers levels others next last) :
      WritesMembers levels ((name, written) :: others) draft last

variable {shape} {levels : Nat} {written : List (String × Value)} {draft last : Draft}

theorem WritesMembers.members_apply (writes : WritesMembers shape levels written draft last)
    {fuel : Nat} (enough : written.length < fuel) (isFirst : Bool) (rest : List Char) :
    shape.members levels fuel isFirst draft
        (separated oneMemberChars isFirst written ++ '\x7d' :: rest) =
      .ok (last, '\x7d' :: rest) := by
  induction writes generalizing fuel isFirst with
  | nil draft =>
      rcases fuel with _ | fuel
      · contradiction
      · unfold RecordShape.members
        change (nextKey? isFirst >>= _) ('\x7d' :: rest) = _
        rw [bind_of_ok (nextKey?_end isFirst rest)]
        rfl
  | @cons name written others field draft next last known fresh taken _ inductionHypothesis =>
      rcases fuel with _ | fuel
      · contradiction
      · have ends := ends_separated oneMemberChars others
          (by decide : continuesNumber '\x7d' = false) rest
        unfold RecordShape.members
        simp only [separated, List.append_assoc]
        rw [bind_of_ok (nextKey?_oneMember isFirst name written _)]
        simp only [known, fresh]
        change (colon >>= _) _ = _
        rw [bind_of_ok (colon_first _), bind_of_ok (taken ends)]
        exact inductionHypothesis (Nat.lt_of_succ_lt_succ enough) false

/-- A record that is written as an object is read back if its fields are. -/
theorem WritesMembers.takes_read {value : α}
    (writes : WritesMembers shape levels written shape.blank last)
    (complete : shape.complete last = .ok value) :
    Takes (shape.read (levels + 1)) (Value.object written).chars value := by
  intro rest _
  rw [chars_object_append]
  unfold RecordShape.read
  rw [bind_of_ok (peekValue_first (by decide) _)]
  apply inObject_apply
  have completed (text : List Char) : shape.completion last text = .ok (value, text) := by
    unfold RecordShape.completion
    rw [complete]
    rfl
  rw [bind_of_ok (bound_apply _), bind_of_ok (writes.members_apply
    (length_lt_separated length_oneMemberChars_pos written _) true rest)]
  exact completed _

end Records

end Lindenmayer.Json
