import Lindenmayer.Json.Meaning
import Lindenmayer.Proofs.Json.Passing

/-!
# What is read is what is meant

Each reader, if it succeeds on a spelled value, takes off this value and nothing else, and gives
what the value means. So whatever is read depends on the tree alone.
-/

namespace Lindenmayer.Json

open Reader (AreDigits Ends isBlank beginsNumber listEnd objectEnd)

/-! ## Spellings by their first characters -/

theorem IsNumeral.beginsNumber {chars others : List Char} {first : Char}
    (isNumeral : IsNumeral chars) (split : chars = first :: others) :
    Reader.beginsNumber first := by
  rcases isNumeral.exists_first with ⟨_, _, rfl, begins⟩
  cases split
  exact begins

namespace Spells

variable {chars others : List Char} {first : Char} {tree : Tree}

theorem of_beginsNumber (spells : Spells chars (.value tree)) (split : chars = first :: others)
    (begins : beginsNumber first) : tree = .number chars ∧ IsNumeral chars := by
  cases spells with
  | number isNumeral => exact ⟨rfl, isNumeral⟩
  | _ =>
      cases split
      cases begins

theorem of_null (spells : Spells chars (.value tree)) (split : chars = 'n' :: others) :
    tree = .null ∧ others = ['u', 'l', 'l'] := by
  cases spells with
  | null =>
      cases split
      exact ⟨rfl, rfl⟩
  | number isNumeral => cases isNumeral.beginsNumber split
  | _ => cases split

theorem of_true (spells : Spells chars (.value tree)) (split : chars = 't' :: others) :
    tree = .boolean .true ∧ others = ['r', 'u', 'e'] := by
  cases spells with
  | true =>
      cases split
      exact ⟨rfl, rfl⟩
  | number isNumeral => cases isNumeral.beginsNumber split
  | _ => cases split

theorem of_false (spells : Spells chars (.value tree)) (split : chars = 'f' :: others) :
    tree = .boolean .false ∧ others = ['a', 'l', 's', 'e'] := by
  cases spells with
  | false =>
      cases split
      exact ⟨rfl, rfl⟩
  | number isNumeral => cases isNumeral.beginsNumber split
  | _ => cases split

theorem of_quote (spells : Spells chars (.value tree)) (split : chars = '"' :: others) :
    ∃ written, tree = .string written ∧ others = written ++ ['"'] ∧ IsWritten written := by
  cases spells with
  | string isWritten =>
      cases split
      exact ⟨_, rfl, rfl, isWritten⟩
  | number isNumeral => cases isNumeral.beginsNumber split
  | _ => cases split

theorem of_bracket (spells : Spells chars (.value tree)) (split : chars = '[' :: others) :
    ∃ inside trees, tree = .list trees ∧ others = inside ++ [']'] ∧
      Spells inside (.elements .true trees) := by
  cases spells with
  | list inside =>
      cases split
      exact ⟨_, _, rfl, rfl, inside⟩
  | number isNumeral => cases isNumeral.beginsNumber split
  | _ => cases split

theorem of_brace (spells : Spells chars (.value tree)) (split : chars = '\x7b' :: others) :
    ∃ inside members, tree = .object members ∧ others = inside ++ ['\x7d'] ∧
      Spells inside (.members .true members) := by
  cases spells with
  | object inside =>
      cases split
      exact ⟨_, _, rfl, rfl, inside⟩
  | number isNumeral => cases isNumeral.beginsNumber split
  | _ => cases split

end Spells

/-! ## Scalars -/

/-- Whether a reader that succeeds takes off a value as a whole and gives what it means. -/
def Reads {α : Type} (reader : Reader α) (means : Tree → α → Prop) : Prop :=
  ∀ ⦃blanks chars rest : List Char⦄ ⦃tree : Tree⦄ ⦃result : α × List Char⦄,
    AreBlank blanks → Spells chars (.value tree) → Ends rest →
      reader (blanks ++ (chars ++ rest)) = .ok result → means tree result.1 ∧ result.2 = rest

theorem Reads.apply {α : Type} {reader : Reader α} {means : Tree → α → Prop}
    {chars rest : List Char} {tree : Tree} {result : α × List Char} (reads : Reads reader means)
    (spells : Spells chars (.value tree)) (ends : Ends rest)
    (ended : reader (chars ++ rest) = .ok result) : means tree result.1 ∧ result.2 = rest :=
  reads (List.forall_mem_nil _) spells ends ended

theorem Reads.map {α β : Type} {reader : Reader α} {means : Tree → α → Prop}
    {build : α → β} {buildMeans : Tree → β → Prop} (reads : Reads reader means)
    (built : ∀ tree value, means tree value → buildMeans tree (build value)) :
    Reads (reader >>= fun value => pure (build value)) buildMeans := by
  intro blanks chars rest tree result blank spells ends ended
  rcases Reader.bind_eq_ok_iff.mp ended with ⟨value, _, taken, returned⟩
  rcases reads blank spells ends taken with ⟨meant, rfl⟩
  rcases Reader.pure_eq_ok_iff.mp returned with rfl
  exact ⟨built tree value meant, rfl⟩

/-- A field that is read and then put into a draft. -/
theorem reads_field {Draft : Type} {meanings : List (FieldMeaning Draft)}
    (meaning : FieldMeaning Draft) (isMeaning : meaning ∈ meanings) (draft : Draft)
    {reader : Reader meaning.Content} (reads : Reads reader meaning.means) :
    Reads (reader >>= fun content => pure (meaning.put content draft))
      fun tree => GivesField meanings meaning.name tree draft :=
  reads.map fun _ _ meant => .intro isMeaning rfl meant

namespace Reader

variable {α : Type} {means : Tree → α → Prop} {blanks chars rest : List Char} {tree : Tree}

theorem peekValue_spells (blank : AreBlank blanks) (spells : Spells chars (.value tree)) :
    ∃ first others, chars = first :: others ∧
      peekValue (blanks ++ (chars ++ rest)) = .ok (first, first :: (others ++ rest)) := by
  rcases spells.exists_first with ⟨first, others, rfl, notBlank, _⟩
  exact ⟨first, others, rfl, peekValue_blanks blank notBlank⟩

theorem wrongType_ne_ok (expected : String) (text : List Char) (result : α × List Char) :
    wrongType expected text ≠ .ok result := by
  intro ended
  rcases bind_eq_ok_iff.mp ended with ⟨_, _, _, failed⟩
  cases failed

theorem reads_text : Reads text MeansText := by
  intro blanks chars rest tree result blank spells _ ended
  rcases peekValue_spells blank spells with ⟨first, others, split, peeked⟩
  unfold text at ended
  rw [bind_of_ok peeked] at ended
  split at ended
  · rcases spells.of_quote split with ⟨written, rfl, rfl, isWritten⟩
    rw [bind_of_ok (skip_apply _ _), List.append_assoc] at ended
    rcases stringBody_eq_ok isWritten ended with ⟨denotes, left⟩
    exact ⟨⟨written, rfl, denotes⟩, left⟩
  · exact absurd ended (wrongType_ne_ok _ _ _)

/-- Where a number begins, the value is the numeral that is read. -/
theorem numeral_eq_ok {first : Char} {others left : List Char} {read : Number}
    (spells : Spells chars (.value tree)) (split : chars = first :: others)
    (begins : beginsNumber first) (ends : Ends rest)
    (ended : number (first :: (others ++ rest)) = .ok (read, left)) :
    tree = .number chars ∧ number chars = .ok (read, []) ∧ left = rest := by
  rcases spells.of_beginsNumber split begins with ⟨isNumber, isNumeral⟩
  rw [← List.cons_append, ← split] at ended
  exact ⟨isNumber, number_eq_ok isNumeral ends ended⟩

theorem reads_float : Reads float MeansFloat := by
  intro blanks chars rest tree result blank spells ends ended
  rcases peekValue_spells blank spells with ⟨first, others, split, peeked⟩
  unfold float at ended
  rw [bind_of_ok peeked] at ended
  split at ended
  · rename_i begins
    rcases bind_eq_ok_iff.mp ended with ⟨number, _, taken, returned⟩
    rcases numeral_eq_ok spells split begins ends taken with ⟨rfl, alone, rfl⟩
    rcases pure_eq_ok_iff.mp returned with rfl
    exact ⟨⟨chars, number, rfl, alone, rfl⟩, rfl⟩
  · exact absurd ended (wrongType_ne_ok _ _ _)

theorem reads_unsigned : Reads unsigned MeansUnsigned := by
  intro blanks chars rest tree result blank spells ends ended
  rcases peekValue_spells blank spells with ⟨first, others, split, peeked⟩
  unfold unsigned at ended
  rw [bind_of_ok peeked] at ended
  split at ended
  · rename_i begins
    rcases bind_eq_ok_iff.mp ended with ⟨number, _, taken, returned⟩
    rcases numeral_eq_ok spells split begins ends taken with ⟨rfl, alone, rfl⟩
    cases number with
    | unsigned value =>
        rcases pure_eq_ok_iff.mp returned with rfl
        exact ⟨⟨chars, rfl, alone⟩, rfl⟩
    | negative magnitude => cases returned
    | float value => cases returned
  · exact absurd ended (wrongType_ne_ok _ _ _)

theorem reads_optional {item : Reader α} (reads : Reads item means) :
    Reads (optional item) (MeansOptional means) := by
  intro blanks chars rest tree result blank spells ends ended
  rcases spells.exists_first with ⟨first, others, split, notBlank, _⟩
  unfold optional at ended
  rw [split, List.cons_append, bind_of_ok (skipBlanks_blanks blank notBlank),
    bind_of_ok (peek?_apply _)] at ended
  by_cases isNull : first = 'n'
  · subst isNull
    rcases spells.of_null split with ⟨rfl, rfl⟩
    rw [if_pos List.head?_cons, bind_of_ok (skip_apply _ _), bind_of_ok (literal_apply _ _)] at ended
    rcases pure_eq_ok_iff.mp ended with rfl
    exact ⟨.none, rfl⟩
  · rw [if_neg (by simpa using isNull)] at ended
    rcases bind_eq_ok_iff.mp ended with ⟨value, _, taken, returned⟩
    rw [← List.cons_append, ← split] at taken
    rcases reads.apply spells ends taken with ⟨item, rfl⟩
    rcases pure_eq_ok_iff.mp returned with rfl
    refine ⟨.some ?_ item, rfl⟩
    rintro rfl
    cases spells
    cases split
    contradiction

/-! ## Lists and objects -/

theorem placing_eq_ok_iff {move : List Char → List Char} {body : Reader α} {text : List Char}
    {result : α × List Char} : placing move body text = .ok result ↔ body text = .ok result := by
  unfold placing
  cases body text <;> simp [Except.mapError]

/-- What is read between brackets has been read by its own reader, below the same depth. -/
theorem nested_eq_ok {levels : Nat} {move : List Char → List Char} {close : Reader Unit}
    {body : (levels : Nat) → Reader α} {bracket : Char} {text : List Char}
    {result : α × List Char}
    (ended : nested levels
      (fun levels => do skip; let value ← placing move (body levels); close; return value)
      (bracket :: text) = .ok result) :
    ∃ inner rest, body inner text = .ok (result.1, rest) ∧ close rest = .ok ((), result.2) := by
  cases levels with
  | zero => cases ended
  | succ levels =>
      rcases bind_eq_ok_iff.mp ((bind_of_ok (skip_apply _ _)).symm.trans ended) with
        ⟨value, rest, placed, ended⟩
      rcases bind_eq_ok_iff.mp ended with ⟨_, left, closed, returned⟩
      rcases pure_eq_ok_iff.mp returned with rfl
      exact ⟨levels, rest, placing_eq_ok_iff.mp placed, closed⟩

theorem inList_eq_ok {levels : Nat} {body : (levels : Nat) → Reader α} {text : List Char}
    {result : α × List Char} (ended : inList levels body ('[' :: text) = .ok result) :
    ∃ inner rest, body inner text = .ok (result.1, rest) ∧ listEnd rest = .ok ((), result.2) :=
  nested_eq_ok ended

theorem inObject_eq_ok {levels : Nat} {body : (levels : Nat) → Reader α} {text : List Char}
    {result : α × List Char} (ended : inObject levels body ('\x7b' :: text) = .ok result) :
    ∃ inner rest, body inner text = .ok (result.1, rest) ∧ objectEnd rest = .ok ((), result.2) :=
  nested_eq_ok ended

theorem elements_eq_ok {item : Reader α} (reads : Reads item means) {fuel : Nat} {isFirst : Bool}
    {trees : List Tree} {result : List α × List Char}
    (spells : Spells chars (.elements isFirst trees)) (enough : trees.length < fuel)
    (ended : elements item fuel isFirst (chars ++ ']' :: rest) = .ok result) :
    List.Forall₂ means trees result.1 ∧ result.2 = ']' :: rest := by
  induction trees generalizing fuel isFirst chars result with
  | nil =>
      cases spells with
      | noElement blank =>
          rcases fuel with _ | fuel
          · contradiction
          · unfold elements at ended
            rw [bind_of_ok (nextElement_last blank)] at ended
            rcases pure_eq_ok_iff.mp ended with rfl
            exact ⟨.nil, rfl⟩
  | cons tree trees inductionHypothesis =>
      cases spells with
      | element beforeBlank frontBlank value further =>
          rcases fuel with _ | fuel
          · contradiction
          · unfold elements at ended
            simp only [List.append_assoc] at ended
            rw [bind_of_ok (nextElement_next beforeBlank frontBlank value), if_pos rfl] at ended
            rcases bind_eq_ok_iff.mp ended with ⟨first, _, taken, continued⟩
            rcases reads.apply value (further.ends_elements rest) taken with ⟨item, rfl⟩
            rcases bind_eq_ok_iff.mp continued with ⟨others, _, furtherTaken, returned⟩
            rcases inductionHypothesis further (Nat.lt_of_succ_lt_succ enough) furtherTaken with
              ⟨items, rfl⟩
            rcases pure_eq_ok_iff.mp returned with rfl
            exact ⟨.cons item items, rfl⟩

theorem members_eq_ok {item : Reader α} (reads : Reads item means) {fuel : Nat} {isFirst : Bool}
    {members : List (List Char × Tree)} {result : List (String × α) × List Char}
    (spells : Spells chars (.members isFirst members)) (enough : members.length < fuel)
    (ended : Reader.members item fuel isFirst (chars ++ '\x7d' :: rest) = .ok result) :
    MeansEntries means members result.1 ∧ result.2 = '\x7d' :: rest := by
  induction members generalizing fuel isFirst chars result with
  | nil =>
      cases spells with
      | noMember blank =>
          rcases fuel with _ | fuel
          · contradiction
          · unfold Reader.members at ended
            rw [bind_of_ok (nextKey?_last blank)] at ended
            rcases pure_eq_ok_iff.mp ended with rfl
            exact ⟨.nil, rfl⟩
  | cons member members inductionHypothesis =>
      cases spells with
      | member beforeBlank frontBlank isWritten middleBlank gapBlank value further =>
          rcases fuel with _ | fuel
          · contradiction
          · unfold Reader.members at ended
            simp only [List.append_assoc, List.cons_append] at ended
            rcases bind_eq_ok_iff.mp ended with ⟨key?, _, keyTaken, continued⟩
            rcases nextKey?_eq_ok beforeBlank frontBlank isWritten keyTaken with
              ⟨key, same, denotes⟩
            cases same
            rcases bind_eq_ok_iff.mp continued with ⟨_, _, colonTaken, continued⟩
            cases (colon_apply middleBlank).symm.trans colonTaken
            rcases bind_eq_ok_iff.mp continued with ⟨content, _, taken, continued⟩
            rcases reads gapBlank value (further.ends_members rest) taken with ⟨item, rfl⟩
            rcases bind_eq_ok_iff.mp continued with ⟨others, _, furtherTaken, returned⟩
            rcases inductionHypothesis further (Nat.lt_of_succ_lt_succ enough) furtherTaken with
              ⟨entries, rfl⟩
            rcases pure_eq_ok_iff.mp returned with rfl
            exact ⟨.cons ⟨denotes, item⟩ entries, rfl⟩

theorem length_lt_bound (chars rest : List Char) {count : Nat} (atMost : count ≤ chars.length) :
    count < (chars ++ rest).length + 1 := by
  rw [List.length_append]
  omega

theorem inObject_members_eq_ok {β : Type} {levels : Nat} {item : (levels : Nat) → Reader α}
    (reads : ∀ levels, Reads (item levels) means) {build : List (String × α) → β}
    {members : List (List Char × Tree)} {result : β × List Char}
    (spells : Spells chars (.members true members))
    (ended : inObject levels
      (fun levels => do return build (← Reader.members (item levels) (← bound) true))
      ('\x7b' :: (chars ++ '\x7d' :: rest)) = .ok result) :
    ∃ entries, MeansEntries means members entries ∧ result = (build entries, rest) := by
  rcases result with ⟨built, last⟩
  rcases inObject_eq_ok ended with ⟨inner, left, body, closed⟩
  rw [bind_of_ok (bound_apply _)] at body
  rcases bind_eq_ok_iff.mp body with ⟨entries, _, taken, returned⟩
  have enough := length_lt_bound chars ('\x7d' :: rest) spells.length_members_le
  rcases members_eq_ok (reads inner) spells enough taken with ⟨meant, rfl⟩
  cases pure_eq_ok_iff.mp returned
  cases closed
  exact ⟨entries, meant, rfl⟩

theorem reads_table {levels : Nat} {item : (levels : Nat) → Reader α}
    (reads : ∀ levels, Reads (item levels) means) :
    Reads (table levels item) (MeansTable means) := by
  intro blanks chars rest tree result blank spells ends ended
  rcases peekValue_spells blank spells with ⟨first, others, split, peeked⟩
  unfold table at ended
  rw [bind_of_ok peeked] at ended
  split at ended
  · rcases spells.of_brace split with ⟨inside, members, rfl, rfl, spelled⟩
    rw [List.append_assoc] at ended
    rcases inObject_members_eq_ok reads spelled ended with ⟨entries, meant, rfl⟩
    exact ⟨⟨members, entries, rfl, meant, rfl⟩, rfl⟩
  · exact absurd ended (wrongType_ne_ok _ _ _)

theorem dropBlanks_of_listEnd {text : List Char} {result : Unit × List Char}
    (ended : listEnd text = .ok result) : dropBlanks text = ']' :: result.2 := by
  rcases bind_eq_ok_iff.mp ended with ⟨_, left, skipped, afterBlanks⟩
  rcases bind_eq_ok_iff.mp afterBlanks with ⟨next?, _, peeked, afterPeek⟩
  cases skipped
  cases left_eq : dropBlanks text with
  | nil =>
      rw [left_eq] at peeked
      cases peeked
      cases afterPeek
  | cons char left =>
      rw [left_eq] at peeked
      cases peeked
      by_cases closing : char = ']'
      · subst closing
        cases afterPeek
        rfl
      · by_cases comma : char = ','
        · subst comma
          rcases bind_eq_ok_iff.mp afterPeek with ⟨_, _, _, afterComma⟩
          rcases bind_eq_ok_iff.mp afterComma with ⟨_, _, _, afterBlanks⟩
          rcases bind_eq_ok_iff.mp afterBlanks with ⟨_, _, _, failed⟩
          split at failed <;> cases failed
        · simp only [List.head?_cons] at afterPeek
          cases afterPeek

/-- The end of a list is taken off only where no element is left. -/
theorem listEnd_eq_ok {isFirst : Bool} {trees : List Tree} {result : Unit × List Char}
    (spells : Spells chars (.elements isFirst trees))
    (ended : listEnd (chars ++ ']' :: rest) = .ok result) : trees = [] ∧ result.2 = rest := by
  have closes := dropBlanks_of_listEnd ended
  cases spells with
  | noElement blank =>
      rw [dropBlanks_blanks blank] at closes
      exact ⟨rfl, (List.cons.inj closes).2.symm⟩
  | @element before front _ _ _ _ _ beforeBlank frontBlank value _ =>
      exfalso
      rcases value.exists_first with ⟨first, others, rfl, notBlank, notClosing⟩
      rw [List.append_assoc, dropBlanks_blanks beforeBlank] at closes
      cases isFirst with
      | true =>
          simp only [separator, if_true, List.nil_append, List.append_assoc, List.cons_append]
            at closes
          rw [dropBlanks_blanks frontBlank, dropBlanks,
            List.dropWhile_cons_of_neg (by simp [notBlank])] at closes
          exact notClosing (List.cons.inj closes).1
      | false => exact absurd (List.cons.inj closes).1 (by decide)

theorem required_eq_ok {item : Reader α} (reads : Reads item means) {index : Nat}
    {expected : String} {trees : List Tree} {result : α × List Char}
    (spells : Spells chars (.elements (index = 0) trees))
    (ended : required index expected item (chars ++ ']' :: rest) = .ok result) :
    ∃ tree others left, trees = tree :: others ∧ means tree result.1 ∧
      Spells left (.elements false others) ∧ result.2 = left ++ ']' :: rest := by
  unfold required at ended
  cases spells with
  | noElement blank =>
      rw [bind_of_ok (nextElement_last blank), if_neg Bool.false_ne_true] at ended
      cases ended
  | element beforeBlank frontBlank value further =>
      simp only [List.append_assoc] at ended
      rw [bind_of_ok (nextElement_next beforeBlank frontBlank value), if_pos rfl] at ended
      rcases reads.apply value (further.ends_elements rest) ended with ⟨item, left⟩
      exact ⟨_, _, _, rfl, item, further, left⟩

theorem listOf_eq_ok {levels : Nat} {expected : String} {body : (levels : Nat) → Reader α}
    {result : α × List Char} (blank : AreBlank blanks) (spells : Spells chars (.value tree))
    (ended : listOf levels expected body (blanks ++ (chars ++ rest)) = .ok result) :
    ∃ inside trees inner left, tree = .list trees ∧ Spells inside (.elements true trees) ∧
      body inner (inside ++ ']' :: rest) = .ok (result.1, left) ∧
      listEnd left = .ok ((), result.2) := by
  rcases peekValue_spells blank spells with ⟨first, others, split, peeked⟩
  unfold listOf at ended
  rw [bind_of_ok peeked] at ended
  split at ended
  · rcases spells.of_bracket split with ⟨inside, trees, rfl, rfl, spelled⟩
    rw [List.append_assoc] at ended
    rcases inList_eq_ok ended with ⟨inner, left, taken, closed⟩
    exact ⟨inside, trees, inner, left, rfl, spelled, taken, closed⟩
  · exact absurd ended (wrongType_ne_ok _ _ _)

/-! ## Values of any kind -/

theorem reads_scalarOr {list object : Reader Value}
    (readsList : ∀ {inside rest : List Char} {trees : List Tree} {result : Value × List Char},
      Spells inside (.elements true trees) → list ('[' :: (inside ++ ']' :: rest)) = .ok result →
        Means (.list trees) result.1 ∧ result.2 = rest)
    (readsObject : ∀ {inside rest : List Char} {members : List (List Char × Tree)}
      {result : Value × List Char}, Spells inside (.members true members) →
      object ('\x7b' :: (inside ++ '\x7d' :: rest)) = .ok result →
        Means (.object members) result.1 ∧ result.2 = rest) :
    Reads (value.scalarOr list object) Means := by
  rintro blanks chars rest tree ⟨read, last⟩ blank spells ends ended
  rcases peekValue_spells blank spells with ⟨first, others, split, peeked⟩
  unfold value.scalarOr at ended
  rw [bind_of_ok peeked] at ended
  split at ended
  · rcases spells.of_null split with ⟨rfl, rfl⟩
    rw [bind_of_ok (skip_apply _ _), bind_of_ok (literal_apply _ _)] at ended
    cases pure_eq_ok_iff.mp ended
    exact ⟨.null, rfl⟩
  · rcases spells.of_true split with ⟨rfl, rfl⟩
    rw [bind_of_ok (skip_apply _ _), bind_of_ok (literal_apply _ _)] at ended
    cases pure_eq_ok_iff.mp ended
    exact ⟨.boolean true, rfl⟩
  · rcases spells.of_false split with ⟨rfl, rfl⟩
    rw [bind_of_ok (skip_apply _ _), bind_of_ok (literal_apply _ _)] at ended
    cases pure_eq_ok_iff.mp ended
    exact ⟨.boolean false, rfl⟩
  · rcases spells.of_quote split with ⟨written, rfl, rfl, isWritten⟩
    rw [bind_of_ok (skip_apply _ _), List.append_assoc] at ended
    rcases bind_eq_ok_iff.mp ended with ⟨text, _, body, returned⟩
    rcases stringBody_eq_ok isWritten body with ⟨denotes, rfl⟩
    cases pure_eq_ok_iff.mp returned
    exact ⟨.string denotes, rfl⟩
  · rcases spells.of_bracket split with ⟨inside, trees, rfl, rfl, spelled⟩
    rw [List.append_assoc] at ended
    exact readsList spelled ended
  · rcases spells.of_brace split with ⟨inside, members, rfl, rfl, spelled⟩
    rw [List.append_assoc] at ended
    exact readsObject spelled ended
  · split at ended
    · rename_i begins
      rcases bind_eq_ok_iff.mp ended with ⟨number, _, taken, returned⟩
      rcases numeral_eq_ok spells split begins ends taken with ⟨rfl, alone, rfl⟩
      cases pure_eq_ok_iff.mp returned
      exact ⟨.number alone, rfl⟩
    · cases ended

theorem means_object_of_entries {members : List (List Char × Tree)}
    {entries : List (String × Value)} (meant : MeansEntries Means members entries) :
    Means (.object members) (.object entries) := by
  apply Means.object
  · rw [List.forall₂_map_left_iff, List.forall₂_map_right_iff]
    exact meant.imp fun _ _ => And.left
  · rw [List.forall₂_map_left_iff, List.forall₂_map_right_iff]
    exact meant.imp fun _ _ => And.right

/-- A value of any kind is read as what it means, up to the depth to which lists may be nested. -/
theorem reads_value (levels : Nat) : Reads (value levels) Means := by
  induction levels with
  | zero =>
      apply reads_scalarOr
      · intro _ _ _ _ _ ended
        cases ended
      · intro _ _ _ _ _ ended
        cases ended
  | succ levels inductionHypothesis =>
      apply reads_scalarOr
      · rintro inside rest trees ⟨read, last⟩ spelled ended
        rcases inList_eq_ok ended with ⟨inner, left, body, closed⟩
        rw [bind_of_ok (bound_apply _)] at body
        rcases bind_eq_ok_iff.mp body with ⟨values, _, taken, returned⟩
        have enough := length_lt_bound inside (']' :: rest) spelled.length_elements_le
        rcases elements_eq_ok inductionHypothesis spelled enough taken with ⟨meant, rfl⟩
        cases pure_eq_ok_iff.mp returned
        cases closed
        exact ⟨.list meant, rfl⟩
      · intro inside rest members result spelled ended
        rcases inObject_members_eq_ok (fun _ => inductionHypothesis) spelled ended with
          ⟨entries, meant, rfl⟩
        exact ⟨means_object_of_entries meant, rfl⟩

/-! ## Records -/

section Records

variable {Draft : Type} {shape : RecordShape Draft α} {meanings : List (FieldMeaning Draft)}
  (reads : ∀ field ∈ shape.fields, ∀ levels draft,
    Reads (field.read levels draft) fun tree => GivesField meanings field.name tree draft)

include reads

theorem fillsElements_of_ok {levels : Nat} {fields : List (RecordField Draft)} {index : Nat}
    {trees : List Tree} {draft : Draft} {result : Draft × List Char} {last : List Char}
    (some : fields ⊆ shape.fields)
    (spells : Spells chars (.elements (index = 0) trees))
    (ended : shape.elements levels fields index draft (chars ++ ']' :: rest) = .ok result)
    (closed : listEnd result.2 = .ok ((), last)) :
    FillsElements meanings fields trees draft result.1 ∧ last = rest := by
  induction fields generalizing index trees chars draft with
  | nil =>
      rcases pure_eq_ok_iff.mp ended with rfl
      rcases listEnd_eq_ok spells closed with ⟨rfl, rfl⟩
      exact ⟨.nil draft, rfl⟩
  | cons field fields inductionHypothesis =>
      rcases List.cons_subset.mp some with ⟨isField, areFields⟩
      unfold RecordShape.elements at ended
      cases spells with
      | noElement blank =>
          rw [bind_of_ok (nextElement_last blank), if_neg Bool.false_ne_true] at ended
          split at ended
          · cases ended
          · rename_i optional
            -- Nothing more is taken off the text, so the fields left find an empty list.
            have noElement : Spells [] (.elements (index + 1 = 0) []) :=
              .noElement (List.forall_mem_nil _)
            rcases inductionHypothesis areFields noElement ended with ⟨fills, left⟩
            exact ⟨.absent (by simpa using optional) fills, left⟩
      | element beforeBlank frontBlank value further =>
          simp only [List.append_assoc] at ended
          rw [bind_of_ok (nextElement_next beforeBlank frontBlank value), if_pos rfl] at ended
          rcases bind_eq_ok_iff.mp ended with ⟨next, _, taken, continued⟩
          rcases (reads field isField levels draft).apply value (further.ends_elements rest) taken
            with ⟨meant, rfl⟩
          rcases inductionHypothesis areFields further continued with ⟨fills, left⟩
          exact ⟨.field meant fills, left⟩

theorem fillsMembers_of_ok {levels : Nat} {fuel : Nat} {isFirst : Bool}
    {members : List (List Char × Tree)} {draft : Draft} {result : Draft × List Char}
    (spells : Spells chars (.members isFirst members)) (enough : members.length < fuel)
    (ended : shape.members levels fuel isFirst draft (chars ++ '\x7d' :: rest) = .ok result) :
    FillsMembers shape meanings members draft result.1 ∧ result.2 = '\x7d' :: rest := by
  induction members generalizing fuel isFirst chars draft with
  | nil =>
      cases spells with
      | noMember blank =>
          rcases fuel with _ | fuel
          · contradiction
          · unfold RecordShape.members at ended
            rw [bind_of_ok (nextKey?_last blank)] at ended
            rcases pure_eq_ok_iff.mp ended with rfl
            exact ⟨.nil draft, rfl⟩
  | cons member members inductionHypothesis =>
      cases spells with
      | member beforeBlank frontBlank isWritten middleBlank gapBlank value further =>
          rcases fuel with _ | fuel
          · contradiction
          · have enoughFurther := Nat.lt_of_succ_lt_succ enough
            have furtherEnds := further.ends_members rest
            unfold RecordShape.members at ended
            simp only [List.append_assoc, List.cons_append] at ended
            rcases bind_eq_ok_iff.mp ended with ⟨key?, _, keyTaken, continued⟩
            rcases nextKey?_eq_ok beforeBlank frontBlank isWritten keyTaken with
              ⟨key, same, denotes⟩
            cases same
            cases found : shape.fields.find? (·.name = key) with
            | none =>
                simp only [found] at continued
                rcases bind_eq_ok_iff.mp continued with ⟨_, _, colonTaken, continued⟩
                cases (colon_apply middleBlank).symm.trans colonTaken
                rw [bind_of_ok (passValue_apply value gapBlank furtherEnds)] at continued
                rcases inductionHypothesis further enoughFurther continued with ⟨fills, left⟩
                exact ⟨.unknown denotes found fills, left⟩
            | some field =>
                have isField := List.mem_of_find?_eq_some found
                simp only [found] at continued
                split at continued
                · cases continued
                · rename_i fresh
                  rcases bind_eq_ok_iff.mp continued with ⟨_, _, colonTaken, continued⟩
                  cases (colon_apply middleBlank).symm.trans colonTaken
                  rcases bind_eq_ok_iff.mp continued with ⟨next, _, taken, continued⟩
                  rcases reads field isField levels draft gapBlank value furtherEnds taken with
                    ⟨meant, rfl⟩
                  rcases inductionHypothesis further enoughFurther continued with ⟨fills, left⟩
                  exact ⟨.field denotes found (by simpa using fresh) meant fills, left⟩

omit reads in
theorem completion_eq_ok {draft : Draft} {text : List Char} {result : α × List Char}
    (ended : shape.completion draft text = .ok result) :
    shape.complete draft = .ok result.1 ∧ result.2 = text := by
  unfold RecordShape.completion at ended
  cases complete : shape.complete draft with
  | error name =>
      simp only [complete] at ended
      cases ended
  | ok record =>
      simp only [complete] at ended
      rcases pure_eq_ok_iff.mp ended with rfl
      exact ⟨rfl, rfl⟩

/-- A record is read as what it means, if its fields are. -/
theorem reads_record (levels : Nat) : Reads (shape.read levels) (MeansRecord shape meanings) := by
  rintro blanks chars rest tree ⟨record, last⟩ blank spells ends ended
  rcases peekValue_spells blank spells with ⟨first, others, split, peeked⟩
  unfold RecordShape.read at ended
  rw [bind_of_ok peeked] at ended
  split at ended
  · rcases spells.of_bracket split with ⟨inside, trees, rfl, rfl, spelled⟩
    rw [List.append_assoc] at ended
    rcases inList_eq_ok ended with ⟨inner, left, body, closed⟩
    rcases bind_eq_ok_iff.mp body with ⟨draft, _, taken, completed⟩
    rcases completion_eq_ok completed with ⟨complete, rfl⟩
    rcases fillsElements_of_ok reads (List.Subset.refl _) spelled taken closed with ⟨fills, rfl⟩
    exact ⟨.list fills complete, rfl⟩
  · rcases spells.of_brace split with ⟨inside, members, rfl, rfl, spelled⟩
    rw [List.append_assoc] at ended
    rcases inObject_eq_ok ended with ⟨inner, left, body, closed⟩
    rw [bind_of_ok (bound_apply _)] at body
    rcases bind_eq_ok_iff.mp body with ⟨draft, _, taken, completed⟩
    have enough := length_lt_bound inside ('\x7d' :: rest) spelled.length_members_le
    rcases fillsMembers_of_ok reads spelled enough taken with ⟨fills, rfl⟩
    rcases completion_eq_ok completed with ⟨complete, rfl⟩
    cases closed
    exact ⟨.object fills complete, rfl⟩
  · exact absurd ended (wrongType_ne_ok _ _ _)

end Records

/-! ## Whole texts -/

theorem exists_of_run {reader : Reader α} {text : String} {value : α}
    (ended : run reader text = .ok value) : ∃ rest, reader text.toList = .ok (value, rest) := by
  unfold run at ended
  simp only at ended
  split at ended
  · rename_i result left whole
    cases ended
    rcases bind_eq_ok_iff.mp whole with ⟨read, rest, taken, afterValue⟩
    rcases bind_eq_ok_iff.mp afterValue with ⟨_, _, _, afterBlanks⟩
    rcases bind_eq_ok_iff.mp afterBlanks with ⟨next?, _, _, returned⟩
    cases next? with
    | none =>
        cases pure_eq_ok_iff.mp returned
        exact ⟨rest, taken⟩
    | some char => cases returned
  · cases ended

/-- A text that is read is read as what the tree means of which it is a spelling. -/
theorem means_of_run {reader : Reader α} (reads : Reads reader means) {text : String} {value : α}
    (isText : IsTextOf text tree) (ended : run reader text = .ok value) : means tree value := by
  rcases isText with ⟨frontBlank, spells, backBlank, split⟩
  rcases exists_of_run ended with ⟨rest, taken⟩
  have backEnds := Ends.nil.blanks backBlank
  rw [List.append_nil] at backEnds
  rw [split] at taken
  exact (reads frontBlank spells backEnds taken).1

end Reader

end Lindenmayer.Json
