import Lindenmayer.Random.Script

/-!
# Recorded sources

A source that passes on the words of another source and writes them down. What is done
with random words does not depend on whether they are written down; so a source of this
kind shows which words are drawn on the way, and not only what has come of them.
-/

namespace Lindenmayer

/-- A source together with the words it has delivered, in order. -/
structure RecordedSource (ρ : Type) where
  source : ρ
  words : List UInt32

namespace RecordedSource

variable {ρ : Type}

def ofSource (source : ρ) : RecordedSource ρ := ⟨source, []⟩

variable [RandomSource ρ]

def next (recorded : RecordedSource ρ) : UInt32 × RecordedSource ρ :=
  let (word, source) := RandomSource.nextWord recorded.source
  (word, ⟨source, recorded.words ++ [word]⟩)

instance : RandomSource (RecordedSource ρ) := ⟨next⟩

end RecordedSource

end Lindenmayer
