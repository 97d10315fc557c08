import Lindenmayer.Random.Recording

/-!
# What a recorded source is told

A recorded source behaves as the source behind it, whatever is done with its words: each
procedure comes to the same result and leaves the same source behind, and the notes are
what that source has delivered in between.
-/

namespace Lindenmayer

variable {ρ α : Type} [RandomSource ρ]

theorem RandomSource.Delivers.append {source middle rest : ρ} {first second : List UInt32}
    (firstDelivered : Delivers source first middle)
    (secondDelivered : Delivers middle second rest) :
    Delivers source (first ++ second) rest := by
  induction firstDelivered with
  | nil _ => exact secondDelivered
  | cons _ inductionHypothesis => exact .cons (inductionHypothesis secondDelivered)

/--
Whether the outcome of a procedure with a recorded source is that with the source behind it,
apart from the notes, which have grown by the words delivered.
-/
structure RecordedSource.Follows (before : RecordedSource ρ) (outcome : α × ρ)
    (recorded : α × RecordedSource ρ) : Prop where
  result : recorded.1 = outcome.1
  source : recorded.2.source = outcome.2
  words : ∃ words, recorded.2.words = before.words ++ words ∧
    RandomSource.Delivers before.source words outcome.2

namespace RecordedSource.Follows

/-- A procedure that draws nothing. -/
theorem idle (before : RecordedSource ρ) (result : α) :
    before.Follows (result, before.source) (result, before) where
  result := rfl
  source := rfl
  words := ⟨[], by simp, .nil _⟩

/-- Two procedures one after the other. -/
theorem trans {β : Type} {before : RecordedSource ρ} {first : α × ρ}
    {firstRecorded : α × RecordedSource ρ} {second : β × ρ} {secondRecorded : β × RecordedSource ρ}
    (firstFollows : before.Follows first firstRecorded)
    (secondFollows : firstRecorded.2.Follows second secondRecorded) :
    before.Follows second secondRecorded where
  result := secondFollows.result
  source := secondFollows.source
  words := by
    rcases firstFollows.words with ⟨firstWords, firstNoted, firstDelivered⟩
    rcases secondFollows.words with ⟨secondWords, secondNoted, secondDelivered⟩
    rw [firstFollows.source] at secondDelivered
    refine ⟨firstWords ++ secondWords, ?_, firstDelivered.append secondDelivered⟩
    rw [secondNoted, firstNoted, List.append_assoc]

theorem map {β : Type} {before : RecordedSource ρ} {outcome : α × ρ}
    {recorded : α × RecordedSource ρ} (follows : before.Follows outcome recorded)
    (change : α → β) :
    before.Follows (change outcome.1, outcome.2) (change recorded.1, recorded.2) where
  result := congrArg change follows.result
  source := follows.source
  words := follows.words

end RecordedSource.Follows

namespace RandomSource

theorem follows_nextWord (before : RecordedSource ρ) :
    before.Follows (nextWord before.source) (nextWord before) where
  result := rfl
  source := rfl
  words := ⟨[(nextWord before.source).1], rfl, .cons (.nil _)⟩

theorem follows_drawWithin (count : Nat) (positive : 0 < count) (attempts : Nat)
    (before : RecordedSource ρ) :
    before.Follows (drawWithin count positive attempts before.source)
      (drawWithin count positive attempts before) := by
  induction attempts generalizing before with
  | zero => exact .idle before _
  | succ attempts inductionHypothesis =>
      have noted := follows_nextWord before
      simp only [drawWithin, noted.result]
      split
      · exact noted.map fun _ => scale count positive (nextWord before.source).1
      · exact noted.trans (inductionHypothesis (nextWord before).2)

theorem follows_choose (items : List α) (someItem : 0 < items.length)
    (before : RecordedSource ρ) :
    before.Follows (choose items someItem before.source) (choose items someItem before) := by
  unfold choose draw
  exact (follows_drawWithin items.length someItem patience before).map fun index => items[index]

end RandomSource

end Lindenmayer
