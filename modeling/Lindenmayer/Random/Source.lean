/-!
# Sources of random words and fair choice

A random source delivers 32-bit words. A fair choice among several items scales
a word to the number of items: the high half of the product is the index, and a
word whose low half falls past the acceptance zone is thrown away, since keeping
it would favour some indices. The zone is the largest multiple of the number of
items by a power of two that fits a word.

The number of attempts is bounded, so that choosing is total for every source; a
source that is refused that often leaves the choice at the first item.
-/

namespace Lindenmayer

class RandomSource (ρ : Type) where
  nextWord : ρ → UInt32 × ρ

namespace RandomSource

variable {ρ : Type} [RandomSource ρ]

/-- Two words as one of twice the width, the low half first. -/
def nextLong (source : ρ) : UInt64 × ρ :=
  let (low, source) := nextWord source
  let (high, source) := nextWord source
  (high.toUInt64 <<< 32 ||| low.toUInt64, source)

/-- The greatest low half at which a word is kept when choosing among `count` items. -/
def acceptanceZone (count : Nat) : Nat :=
  count * Nat.pow 2 (31 - count.log2) - 1

def accepts (count : Nat) (word : UInt32) : Bool :=
  count * word.toNat % Nat.pow 2 32 ≤ acceptanceZone count

def scale (count : Nat) (positive : 0 < count) (word : UInt32) : Fin count where
  val := count * word.toNat / Nat.pow 2 32
  isLt := by
    rw [Nat.div_lt_iff_lt_mul (by decide)]
    exact Nat.mul_lt_mul_of_pos_left word.toNat_lt positive

/-- Scales the first word that is kept, looking at a bounded number of words. -/
def drawWithin (count : Nat) (positive : 0 < count) : Nat → ρ → Fin count × ρ
  | 0, source => (⟨0, positive⟩, source)
  | attempts + 1, source =>
    let (word, source) := nextWord source
    if accepts count word then (scale count positive word, source)
    else drawWithin count positive attempts source

/-- How many words are looked at before a choice is given up. -/
def patience : Nat := Nat.pow 2 64

/-- Draws an index below `count`, every index being equally likely. -/
@[irreducible]
def draw (count : Nat) (positive : 0 < count) (source : ρ) : Fin count × ρ :=
  drawWithin count positive patience source

def choose {α : Type} (items : List α) (someItem : 0 < items.length) (source : ρ) : α × ρ :=
  let (index, source) := draw items.length someItem source
  (items[index], source)

theorem choose_fst_mem {α : Type} (items : List α) (someItem : 0 < items.length) (source : ρ) :
    (choose items someItem source).1 ∈ items := by
  unfold choose
  generalize draw items.length someItem source = drawn
  exact List.getElem_mem drawn.1.isLt

end RandomSource

end Lindenmayer
