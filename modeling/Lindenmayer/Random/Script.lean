import Lindenmayer.Random.Source

/-!
# Scripted random sources

What it is for a source to deliver given words, and a source whose words are laid
down in advance. Such a source serves to bring about any choices one wants.
-/

namespace Lindenmayer

/-- The words a source delivers next, and what is left of the source after them. -/
inductive RandomSource.Delivers {ρ : Type} [RandomSource ρ] : ρ → List UInt32 → ρ → Prop
  | nil (source : ρ) : Delivers source [] source
  | cons {source rest : ρ} {words : List UInt32}
      (delivers : Delivers (RandomSource.nextWord source).2 words rest) :
      Delivers source ((RandomSource.nextWord source).1 :: words) rest

/-- Words laid down in advance; when they have run out, zeros follow. -/
structure Script where
  words : List UInt32
deriving DecidableEq, Repr

namespace Script

def next : Script → UInt32 × Script
  | ⟨[]⟩ => (0, ⟨[]⟩)
  | ⟨word :: rest⟩ => (word, ⟨rest⟩)

instance : RandomSource Script := ⟨next⟩

theorem delivers (words rest : List UInt32) :
    RandomSource.Delivers (Script.mk (words ++ rest)) words (Script.mk rest) := by
  induction words with
  | nil => exact .nil _
  | cons word words inductionHypothesis => exact .cons inductionHypothesis

end Script

end Lindenmayer
