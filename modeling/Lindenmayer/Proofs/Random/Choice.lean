import Lindenmayer.Random.Script
import Mathlib.Algebra.Group.Nat.Defs

/-!
# Every item can be chosen

Scaling a word to a number of items misses an index only if the word is thrown away.
For up to 2 ^ 32 items every index is the scale of some word that is kept: the least
word that reaches the index leaves a low half below the number of items, and so small
a low half always lies within the acceptance zone.

A draw takes the first word that is kept, however many have been refused before it, as long
as they are fewer than the words that are looked at.
-/

namespace Lindenmayer.RandomSource

/-- The least word that reaches an index, and how little it goes beyond it. -/
theorem exists_least_word {count : Nat} (bound : count ≤ 2 ^ 32) {index : Nat}
    (below : index < count) :
    ∃ word : UInt32, ∃ excess < count, count * word.toNat = index * 2 ^ 32 + excess := by
  let least := (index * 2 ^ 32 + (count - 1)) / count
  have division := Nat.div_add_mod (index * 2 ^ 32 + (count - 1)) count
  have remainder := Nat.mod_lt (index * 2 ^ 32 + (count - 1)) (Nat.zero_lt_of_lt below)
  change count * least + _ = _ at division
  have fits : least < 2 ^ 32 := by
    apply Nat.lt_of_not_le
    intro tooLarge
    have fromWord := Nat.mul_le_mul_left count tooLarge
    have fromIndex := Nat.mul_le_mul_right (2 ^ 32) (Nat.succ_le_of_lt below)
    omega
  refine ⟨UInt32.ofNat least, count * least - index * 2 ^ 32, by omega, ?_⟩
  rw [UInt32.toNat_ofNat_of_lt' fits]
  omega

theorem le_acceptanceZone_of_lt {count : Nat} {excess : Nat} (below : excess < count) :
    excess ≤ acceptanceZone count := by
  have enlarged := Nat.le_mul_of_pos_right count (Nat.two_pow_pos (31 - count.log2))
  rw [acceptanceZone, Nat.pow_eq]
  omega

/-- Every index is reached by a word that is kept. -/
theorem exists_accepts_scale_eq {count : Nat} (positive : 0 < count) (bound : count ≤ 2 ^ 32)
    (index : Fin count) :
    ∃ word, accepts count word = true ∧ scale count positive word = index := by
  rcases exists_least_word bound index.isLt with ⟨word, excess, small, product⟩
  have inZone := le_acceptanceZone_of_lt small
  refine ⟨word, ?_, Fin.ext ?_⟩
  · simp only [accepts, decide_eq_true_eq, Nat.pow_eq]
    omega
  · simp only [scale, Nat.pow_eq]
    omega

section Draws

variable {ρ : Type} [RandomSource ρ] {count : Nat}

theorem drawWithin_of_delivers (positive : 0 < count) {source rest : ρ} {refused : List UInt32}
    {word : UInt32} (delivers : Delivers source (refused ++ [word]) rest)
    (refusals : ∀ other ∈ refused, accepts count other = false)
    (kept : accepts count word = true) {attempts : Nat} (enough : refused.length < attempts) :
    drawWithin count positive attempts source = (scale count positive word, rest) := by
  induction refused generalizing source attempts with
  | nil =>
      rcases delivers with _ | ⟨_ | _⟩
      cases attempts with
      | zero => simp at enough
      | succ fewer => simp [drawWithin, kept]
  | cons first others inductionHypothesis =>
      rcases delivers with _ | further
      rw [List.forall_mem_cons] at refusals
      cases attempts with
      | zero => simp at enough
      | succ fewer =>
          have drawn := inductionHypothesis further refusals.2 (Nat.lt_of_succ_lt_succ enough)
          simp [drawWithin, refusals.1, drawn]

/-- A draw scales the first word that is kept, if one comes before patience is at an end. -/
theorem draw_of_delivers (positive : 0 < count) {source rest : ρ} {refused : List UInt32}
    {word : UInt32} (delivers : Delivers source (refused ++ [word]) rest)
    (refusals : ∀ other ∈ refused, accepts count other = false)
    (kept : accepts count word = true) (patient : refused.length < patience) :
    draw count positive source = (scale count positive word, rest) := by
  rw [draw]
  exact drawWithin_of_delivers positive delivers refusals kept patient

/-- The first word decides a draw if it is kept. -/
theorem draw_of_accepts (positive : 0 < count) (source : ρ)
    (kept : accepts count (nextWord source).1 = true) :
    draw count positive source =
      (scale count positive (nextWord source).1, (nextWord source).2) := by
  have delivers : Delivers source ([] ++ [(nextWord source).1]) (nextWord source).2 :=
    .cons (.nil _)
  exact draw_of_delivers positive delivers (by simp) kept (by decide)

end Draws

/-- Every item of a list is picked by all sources that deliver a certain word first. -/
theorem exists_word_choose_eq {α : Type} {items : List α} (bound : items.length ≤ 2 ^ 32)
    (someItem : 0 < items.length) {item : α} (itemMem : item ∈ items) :
    ∃ word : UInt32, ∀ {ρ : Type} [RandomSource ρ] (source : ρ), (nextWord source).1 = word →
      choose items someItem source = (item, (nextWord source).2) := by
  rcases List.mem_iff_getElem.mp itemMem with ⟨index, inside, found⟩
  rcases exists_accepts_scale_eq someItem bound ⟨index, inside⟩ with ⟨word, kept, scaled⟩
  refine ⟨word, ?_⟩
  intro ρ _ source delivered
  subst word
  simp only [choose, draw_of_accepts someItem source kept, scaled]
  exact Prod.ext found rfl

end Lindenmayer.RandomSource
