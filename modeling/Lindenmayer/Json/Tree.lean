import Lindenmayer.Json.Reader

/-!
# What JSON texts are made of

A text is a tree that has been spelled out with blanks between its parts. Here the grammar of
such spellings is given as a relation, apart from any reader: `Spells` for values and for
what is left of a list or an object. A tree keeps numbers and strings as they are written.
What a written string stands for is a relation of its own, `Denotes`. Not every written
string stands for something, since half of a surrogate pair is no character.
-/

namespace Lindenmayer.Json

/-! ## Numbers -/

inductive IsWhole : List Char → Prop
  | zero : IsWhole ['0']
  | digits {first : Char} {rest : List Char} (digit : first.isDigit) (leading : first ≠ '0')
      (digits : ∀ char ∈ rest, char.isDigit) : IsWhole (first :: rest)

inductive IsFraction : List Char → Prop
  | none : IsFraction []
  | digits {digits : List Char} (some : digits ≠ []) (digit : ∀ char ∈ digits, char.isDigit) :
      IsFraction ('.' :: digits)

inductive IsExponentSign : List Char → Prop
  | none : IsExponentSign []
  | plus : IsExponentSign ['+']
  | minus : IsExponentSign ['-']

inductive IsExponent : List Char → Prop
  | none : IsExponent []
  | digits {letter : Char} {sign digits : List Char} (isLetter : letter = 'e' ∨ letter = 'E')
      (isSign : IsExponentSign sign) (some : digits ≠ []) (digit : ∀ char ∈ digits, char.isDigit) :
      IsExponent (letter :: (sign ++ digits))

inductive IsNumeral : List Char → Prop
  | positive {whole fraction exponent : List Char} (isWhole : IsWhole whole)
      (isFraction : IsFraction fraction) (isExponent : IsExponent exponent) :
      IsNumeral (whole ++ (fraction ++ exponent))
  | negative {whole fraction exponent : List Char} (isWhole : IsWhole whole)
      (isFraction : IsFraction fraction) (isExponent : IsExponent exponent) :
      IsNumeral ('-' :: (whole ++ (fraction ++ exponent)))

/-! ## Strings -/

/-- Whether a character may stand in a string as it is. -/
def IsPlain (char : Char) : Prop :=
  char ≠ '"' ∧ char ≠ '\\' ∧ Reader.isControl char = false

instance : DecidablePred IsPlain := fun char =>
  inferInstanceAs (Decidable (char ≠ '"' ∧ char ≠ '\\' ∧ Reader.isControl char = false))

/-- Four digits that give a number. -/
def IsCodeUnit (digits : List Char) (unit : Nat) : Prop :=
  digits.length = 4 ∧ Reader.hexNumber? digits = some unit

/-- The characters between the quotes of a string. -/
inductive IsWritten : List Char → Prop
  | nil : IsWritten []
  | plain {char : Char} {rest : List Char} (isPlain : IsPlain char) (written : IsWritten rest) :
      IsWritten (char :: rest)
  | short {letter char : Char} {rest : List Char} (known : Reader.shortEscape? letter = some char)
      (written : IsWritten rest) : IsWritten ('\\' :: letter :: rest)
  | numeric {digits rest : List Char} {unit : Nat} (isCodeUnit : IsCodeUnit digits unit)
      (written : IsWritten rest) : IsWritten ('\\' :: 'u' :: (digits ++ rest))

/-- Whether what is written between quotes stands for a text. -/
inductive Denotes : List Char → List Char → Prop
  | nil : Denotes [] []
  | plain {char : Char} {rest text : List Char} (isPlain : IsPlain char)
      (denotes : Denotes rest text) : Denotes (char :: rest) (char :: text)
  | short {letter char : Char} {rest text : List Char}
      (known : Reader.shortEscape? letter = some char) (denotes : Denotes rest text) :
      Denotes ('\\' :: letter :: rest) (char :: text)
  | numeric {digits rest text : List Char} {unit : Nat} (isCodeUnit : IsCodeUnit digits unit)
      (noLead : Reader.isLeadSurrogate unit = false)
      (noTrail : Reader.isTrailSurrogate unit = false) (denotes : Denotes rest text) :
      Denotes ('\\' :: 'u' :: (digits ++ rest)) (Char.ofNat unit :: text)
  | pair {leadDigits trailDigits rest text : List Char} {lead trail : Nat}
      (leadUnit : IsCodeUnit leadDigits lead) (isLead : Reader.isLeadSurrogate lead)
      (trailUnit : IsCodeUnit trailDigits trail) (isTrail : Reader.isTrailSurrogate trail)
      (denotes : Denotes rest text) :
      Denotes ('\\' :: 'u' :: (leadDigits ++ '\\' :: 'u' :: (trailDigits ++ rest)))
        (Char.ofNat (0x10000 + (lead - 0xD800) * 0x400 + (trail - 0xDC00)) :: text)

/-! ## Values -/

/-- A value as it is written, without the blanks between its parts. -/
inductive Tree where
  | null
  | boolean (value : Bool)
  | number (numeral : List Char)
  | string (written : List Char)
  | list (elements : List Tree)
  | object (members : List (List Char × Tree))

/-- Something to be spelled: a value, or what is left of a list or of an object. -/
inductive Phrase where
  | value (tree : Tree)
  | elements (isFirst : Bool) (trees : List Tree)
  | members (isFirst : Bool) (members : List (List Char × Tree))

def AreBlank (chars : List Char) : Prop := ∀ char ∈ chars, Reader.isBlank char

/-- What stands before an element or member; nothing before the first one. -/
def separator (isFirst : Bool) : List Char := if isFirst then [] else [',']

/-- The grammar of JSON: whether characters are a spelling of a phrase. -/
inductive Spells : List Char → Phrase → Prop
  | null : Spells ['n', 'u', 'l', 'l'] (.value .null)
  | true : Spells ['t', 'r', 'u', 'e'] (.value (.boolean .true))
  | false : Spells ['f', 'a', 'l', 's', 'e'] (.value (.boolean .false))
  | number {numeral : List Char} (isNumeral : IsNumeral numeral) :
      Spells numeral (.value (.number numeral))
  | string {written : List Char} (isWritten : IsWritten written) :
      Spells ('"' :: (written ++ ['"'])) (.value (.string written))
  | list {chars : List Char} {trees : List Tree} (inside : Spells chars (.elements .true trees)) :
      Spells ('[' :: (chars ++ [']'])) (.value (.list trees))
  | object {chars : List Char} {members : List (List Char × Tree)}
      (inside : Spells chars (.members .true members)) :
      Spells ('\x7b' :: (chars ++ ['\x7d'])) (.value (.object members))
  | noElement {blanks : List Char} {isFirst : Bool} (blank : AreBlank blanks) :
      Spells blanks (.elements isFirst [])
  | element {before front body others : List Char} {isFirst : Bool} {tree : Tree}
      {trees : List Tree} (beforeBlank : AreBlank before) (frontBlank : AreBlank front)
      (value : Spells body (.value tree)) (further : Spells others (.elements .false trees)) :
      Spells (before ++ (separator isFirst ++ (front ++ (body ++ others))))
        (.elements isFirst (tree :: trees))
  | noMember {blanks : List Char} {isFirst : Bool} (blank : AreBlank blanks) :
      Spells blanks (.members isFirst [])
  | member {before front middle gap body others written : List Char} {isFirst : Bool} {tree : Tree}
      {members : List (List Char × Tree)} (beforeBlank : AreBlank before)
      (frontBlank : AreBlank front) (isWritten : IsWritten written) (middleBlank : AreBlank middle)
      (gapBlank : AreBlank gap) (value : Spells body (.value tree))
      (further : Spells others (.members .false members)) :
      Spells
        (before ++ (separator isFirst ++ (front ++
          '"' :: (written ++ '"' :: (middle ++ ':' :: (gap ++ (body ++ others)))))))
        (.members isFirst ((written, tree) :: members))

/-- Whether a text is a spelling of a tree, with blanks around it allowed. -/
inductive IsTextOf : String → Tree → Prop
  | mk {text : String} {front body back : List Char} {tree : Tree} (frontBlank : AreBlank front)
      (value : Spells body (.value tree)) (backBlank : AreBlank back)
      (split : text.toList = front ++ (body ++ back)) : IsTextOf text tree

end Lindenmayer.Json
