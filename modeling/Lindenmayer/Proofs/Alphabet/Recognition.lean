import Lindenmayer.Proofs.Alphabet.Interning

/-!
# Own and foreign symbols

An alphabet that is asked for the character of a symbol looks at the symbol's number alone. It
is right about all of its own symbols, and about foreign symbols with numbers that it has not
given away. A foreign symbol with one of its own numbers it takes for the symbol that it has
given this number to.

So an alphabet is right about all symbols of another one only if one of the two begins with what
the other one lists. This is so between the stages of one alphabet as it grows.
-/

namespace Lindenmayer

section Prefixes

variable {α : Type} {first second : List α}

theorem eq_of_isPrefix (shorter : first <+: second) {place : Nat} {item other : α}
    (found : first[place]? = some item) (otherFound : second[place]? = some other) :
    item = other := by
  rcases shorter with ⟨rest, rfl⟩
  have inside : place < first.length := (List.getElem?_eq_some_iff.mp found).1
  rw [List.getElem?_append_left inside, found] at otherFound
  exact Option.some.inj otherFound

theorem isPrefix_of_agree (shorter : first.length ≤ second.length)
    (agree : ∀ (place : Nat) (item other : α), first[place]? = some item →
      second[place]? = some other → item = other) : first <+: second := by
  rw [List.prefix_iff_getElem?]
  intro place inside
  have otherInside : place < second.length := Nat.lt_of_lt_of_le inside shorter
  rw [agree place _ _ (List.getElem?_eq_getElem inside) (List.getElem?_eq_getElem otherInside)]
  exact List.getElem?_eq_getElem otherInside

/-- One of two lists begins with the other one if they agree as far as both go. -/
theorem isPrefix_or_isPrefix_iff :
    first <+: second ∨ second <+: first ↔
      ∀ (place : Nat) (item other : α), first[place]? = some item →
        second[place]? = some other → item = other := by
  constructor
  · intro comparable place item other found otherFound
    rcases comparable with shorter | longer
    · exact eq_of_isPrefix shorter found otherFound
    · exact (eq_of_isPrefix longer otherFound found).symm
  · intro agree
    rcases Nat.le_total first.length second.length with shorter | longer
    · left
      exact isPrefix_of_agree shorter agree
    · right
      apply isPrefix_of_agree longer
      intro place other item otherFound found
      exact (agree place item other found otherFound).symm

end Prefixes

namespace Alphabet

/--
Whether an alphabet gives the character of a symbol if the symbol is its own, that is, if it is
the one that its character has there, and gives none otherwise.
-/
def Recognises (alphabet : Alphabet) (symbol : Symbol) : Prop :=
  alphabet.charOf? symbol =
    if alphabet.resolve? symbol.char = some symbol then some symbol.char else none

instance (alphabet : Alphabet) (symbol : Symbol) : Decidable (alphabet.Recognises symbol) :=
  inferInstanceAs (Decidable (_ = _))

theorem charOf?_of_own {alphabet : Alphabet} {own symbol : Symbol} (listed : own ∈ alphabet.symbols)
    (sameId : own.id = symbol.id) : alphabet.charOf? symbol = some own.char := by
  rw [charOf?, ← sameId]
  exact mem_symbols_iff.mp listed

theorem exists_own_of_charOf? {alphabet : Alphabet} {symbol : Symbol} {char : Char}
    (answered : alphabet.charOf? symbol = some char) :
    ∃ own ∈ alphabet.symbols, own.id = symbol.id ∧ own.char = char :=
  ⟨⟨symbol.id, char⟩, mem_symbols_iff.mpr answered, rfl, rfl⟩

theorem recognises_of_own {alphabet : Alphabet} {symbol : Symbol}
    (listed : symbol ∈ alphabet.symbols) : alphabet.Recognises symbol := by
  rw [Recognises, charOf?_of_own listed rfl, if_pos (resolve?_char_of_mem listed)]

/-- A symbol is recognised if no other symbol of the alphabet has its number. -/
theorem recognises_iff_own {alphabet : Alphabet} {symbol : Symbol} :
    alphabet.Recognises symbol ↔
      ∀ own ∈ alphabet.symbols, own.id = symbol.id → own = symbol := by
  constructor
  · intro recognised own listed sameId
    rw [Recognises, charOf?_of_own listed sameId] at recognised
    split at recognised
    · rename_i known
      exact eq_of_id_eq listed (mem_symbols_of_resolve?_eq_some known) sameId
    · simp at recognised
  · intro unmistakable
    cases answered : alphabet.charOf? symbol with
    | some char =>
        rcases exists_own_of_charOf? answered with ⟨own, listed, sameId, _⟩
        rw [unmistakable own listed sameId] at listed
        exact recognises_of_own listed
    | none =>
        have foreign : alphabet.resolve? symbol.char ≠ some symbol := by
          intro known
          have listed := mem_symbols_of_resolve?_eq_some known
          simp [charOf?_of_own listed rfl] at answered
        rw [Recognises, answered, if_neg foreign]

theorem recognises_iff_own_or_beyond {alphabet : Alphabet} {symbol : Symbol} :
    alphabet.Recognises symbol ↔
      alphabet.resolve? symbol.char = some symbol ∨ alphabet.size ≤ symbol.id := by
  rw [recognises_iff_own]
  constructor
  · intro unmistakable
    by_cases inside : symbol.id < alphabet.size
    · left
      let own : Symbol := ⟨symbol.id, alphabet.chars[symbol.id]⟩
      have listed : own ∈ alphabet.symbols :=
        mem_symbols_iff.mpr (List.getElem?_eq_getElem inside)
      rw [unmistakable own listed rfl] at listed
      exact resolve?_char_of_mem listed
    · right
      exact Nat.le_of_not_lt inside
  · rintro (known | beyond) own listed sameId
    · exact eq_of_id_eq listed (mem_symbols_of_resolve?_eq_some known) sameId
    · have inside := id_lt_size_of_mem listed
      omega

theorem recognises_symbols_iff {alphabet other : Alphabet} :
    (∀ symbol ∈ other.symbols, alphabet.Recognises symbol) ↔
      alphabet.Extends other ∨ other.Extends alphabet := by
  rw [Extends, Extends, or_comm, isPrefix_or_isPrefix_iff]
  constructor
  · intro recognised place char otherChar found otherFound
    have listed : ⟨place, char⟩ ∈ alphabet.symbols := mem_symbols_iff.mpr found
    have otherListed : ⟨place, otherChar⟩ ∈ other.symbols := mem_symbols_iff.mpr otherFound
    have same := recognises_iff_own.mp (recognised _ otherListed) _ listed rfl
    exact congrArg Symbol.char same
  · rintro agree ⟨place, otherChar⟩ otherListed
    rw [recognises_iff_own]
    rintro ⟨_, char⟩ listed rfl
    have sameChar : char = otherChar :=
      agree _ _ _ (mem_symbols_iff.mp listed) (mem_symbols_iff.mp otherListed)
    rw [sameChar]

/--
Of the symbols of any alphabet another one recognises those that are its own and those with
numbers that it has not given away, and no others. It recognises them all if and only if one of
the two lists what the other one lists, followed by new characters.
-/
theorem recognises_iff (alphabet other : Alphabet) :
    (∀ symbol ∈ other.symbols,
      (alphabet.Recognises symbol ↔
        alphabet.resolve? symbol.char = some symbol ∨ alphabet.size ≤ symbol.id)) ∧
    ((∀ symbol ∈ other.symbols, alphabet.Recognises symbol) ↔
      alphabet.Extends other ∨ other.Extends alphabet) := by
  constructor
  · intro symbol _
    exact recognises_iff_own_or_beyond
  · exact recognises_symbols_iff

/-- The first symbol of one alphabet is taken for the first symbol of another. -/
theorem foreign_taken_for_own :
    let own := empty.intern 'F'
    let foreign := empty.intern 'x'
    own.2.resolve? foreign.1.char = none ∧ own.2.charOf? foreign.1 = some 'F' ∧
      ¬own.2.Recognises foreign.1 := by
  decide

end Alphabet

end Lindenmayer
