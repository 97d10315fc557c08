import Lindenmayer.Alphabet

/-!
# Data attached to symbols

A symbol map gives every symbol a value, the default one except for finitely
many. It is addressed by the symbol's number, so two symbols of one number share
their value whatever their characters are.

The main statement is `SymbolMap.get_modify`: a change shows at the changed
number and nowhere else.
-/

namespace Lindenmayer

/-- A value for every symbol number; numbers past the end have the default value. -/
structure SymbolMap (Value : Type) where
  cells : Array Value
deriving Inhabited

namespace SymbolMap

variable {Value : Type} [Inhabited Value]

def empty : SymbolMap Value := ⟨#[]⟩

def get (map : SymbolMap Value) (symbol : Symbol) : Value :=
  map.cells.getD symbol.id default

def modify (map : SymbolMap Value) (symbol : Symbol) (change : Value → Value) :
    SymbolMap Value where
  cells :=
    if symbol.id < map.cells.size then
      map.cells.modify symbol.id change
    else
      (map.cells ++ Array.replicate (symbol.id - map.cells.size) default).push (change default)

@[simp]
theorem get_empty (symbol : Symbol) : (empty : SymbolMap Value).get symbol = default := by
  simp [empty, get]

/-- A change shows at the changed number and nowhere else. -/
theorem get_modify (map : SymbolMap Value) (changed symbol : Symbol) (change : Value → Value) :
    (map.modify changed change).get symbol =
      if changed.id = symbol.id then change (map.get changed) else map.get symbol := by
  simp only [get, modify, Array.getD_eq_getD_getElem?]
  by_cases inside : changed.id < map.cells.size
  · by_cases same : changed.id = symbol.id
    · rw [if_pos inside, if_pos same, ← same, Array.getElem?_modify, if_pos rfl,
        Array.getElem?_eq_getElem inside]
      rfl
    · rw [if_pos inside, if_neg same, Array.getElem?_modify, if_neg same]
  · rw [if_neg inside, Array.getElem?_push, Array.getElem?_append, Array.getElem?_replicate]
    grind

end SymbolMap

end Lindenmayer
