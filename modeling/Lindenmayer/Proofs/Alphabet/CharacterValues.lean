import Lindenmayer.Proofs.Alphabet.Interning
import Lindenmayer.SymbolMap

/-!
# Values of characters

Under an alphabet, what a symbol map says of numbers is said of characters. A change at
the symbol of a character shows at this character and at no other.

That the alphabet grows does not show at all, provided that the map says nothing of
numbers that have not been given away yet: otherwise the next new character would
come by a value that nobody has given to it.
-/

namespace Lindenmayer.SymbolMap

variable {Value : Type} [Inhabited Value] {map : SymbolMap Value} {alphabet later : Alphabet}

/-- The value of a character; the default one for a character without a symbol. -/
def valueOf (map : SymbolMap Value) (alphabet : Alphabet) (char : Char) : Value :=
  ((alphabet.resolve? char).map map.get).getD default

/-- Whether a map says nothing of numbers that the alphabet has not given away. -/
def IsConfinedTo (map : SymbolMap Value) (alphabet : Alphabet) : Prop :=
  ∀ symbol : Symbol, alphabet.size ≤ symbol.id → map.get symbol = default

theorem isConfinedTo_empty (alphabet : Alphabet) :
    (empty : SymbolMap Value).IsConfinedTo alphabet :=
  fun symbol _ => get_empty symbol

theorem IsConfinedTo.mono (confined : map.IsConfinedTo alphabet) (grown : later.Extends alphabet) :
    map.IsConfinedTo later :=
  fun symbol outside => confined symbol (Nat.le_trans grown.size_le outside)

/-- Changing the value of a symbol of the alphabet says nothing of other numbers. -/
theorem IsConfinedTo.modify (confined : map.IsConfinedTo alphabet) {changed : Symbol}
    (listed : changed ∈ alphabet.symbols) (change : Value → Value) :
    (map.modify changed change).IsConfinedTo alphabet := by
  intro symbol outside
  have inside := Alphabet.id_lt_size_of_mem listed
  rw [get_modify, if_neg (by omega)]
  exact confined symbol outside

/-- Characters keep their values when the alphabet grows. -/
theorem IsConfinedTo.valueOf_of_extends (confined : map.IsConfinedTo alphabet)
    (grown : later.Extends alphabet) (char : Char) :
    map.valueOf later char = map.valueOf alphabet char := by
  unfold valueOf
  cases known : alphabet.resolve? char with
  | some symbol => rw [Alphabet.resolve?_of_extends grown known]
  | none =>
      cases laterKnown : later.resolve? char with
      | none => rfl
      | some symbol =>
          rcases Alphabet.resolve?_eq_some_iff.mp laterKnown with ⟨listed, rfl⟩
          -- The character is new, and so is its number.
          have outside : alphabet.size ≤ symbol.id := by
            apply Nat.le_of_not_lt
            intro inside
            have old := Alphabet.mem_symbols_of_id_lt grown listed inside
            simp [Alphabet.resolve?_char_of_mem old] at known
          simp [confined symbol outside]

/-- A change at the symbol of a character shows at this character alone. -/
theorem valueOf_modify (map : SymbolMap Value) {changed : Symbol} {bound : Char}
    (known : alphabet.resolve? bound = some changed) (change : Value → Value) (char : Char) :
    (map.modify changed change).valueOf alphabet char =
      if bound = char then change (map.valueOf alphabet char) else map.valueOf alphabet char := by
  unfold valueOf
  by_cases same : bound = char
  · subst same
    simp [known, get_modify]
  · rw [if_neg same]
    cases otherKnown : alphabet.resolve? char with
    | none => rfl
    | some symbol =>
        have different : changed.id ≠ symbol.id := by
          intro sameId
          rcases Alphabet.resolve?_eq_some_iff.mp known with ⟨changedListed, changedChar⟩
          rcases Alphabet.resolve?_eq_some_iff.mp otherKnown with ⟨listed, symbolChar⟩
          have equal := Alphabet.eq_of_id_eq changedListed listed sameId
          exact same (by rw [← changedChar, ← symbolChar, equal])
        simp [get_modify, different]

end Lindenmayer.SymbolMap
