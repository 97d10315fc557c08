import Mathlib.Data.List.Induction
import Mathlib.Data.List.Perm.Subperm
import Lindenmayer.Grammar.Construction
import Lindenmayer.Proofs.Alphabet.Interning

/-!
# Numbering by first mention

Taking first occurrences is done here in portions: what has occurred in an earlier
portion is left out of a later one. Interning does the same to the characters listed in
stores that are in step: what is not found in the one store is what is not listed in the
other. Stores that have interned some characters hence list their first occurrences, after
what they had listed before, and are still in step.

There are fewer characters than words of thirty-two bits, and an alphabet lists each of
them at most once. The numbers of its symbols hence fit into such words.
-/

namespace Lindenmayer

section FirstOccurrences

variable {α : Type} [DecidableEq α]

/-- It only matters what has occurred earlier, and not how often or in which order. -/
theorem firstOccurrencesAfter_congr {earlier other : List α}
    (same : ∀ item, item ∈ earlier ↔ item ∈ other) (items : List α) :
    firstOccurrencesAfter earlier items = firstOccurrencesAfter other items := by
  induction items generalizing earlier other with
  | nil => rfl
  | cons item rest inductionHypothesis =>
      have sameAfter : ∀ listed, listed ∈ item :: earlier ↔ listed ∈ item :: other := by
        simp [same]
      simp only [firstOccurrencesAfter, same, inductionHypothesis same,
        inductionHypothesis sameAfter]

theorem mem_firstOccurrencesAfter {earlier items : List α} {item : α} :
    item ∈ firstOccurrencesAfter earlier items ↔ item ∈ items ∧ item ∉ earlier := by
  induction items generalizing earlier with
  | nil => simp [firstOccurrencesAfter]
  | cons first rest inductionHypothesis =>
      by_cases occurred : first ∈ earlier
      · rw [firstOccurrencesAfter, if_pos occurred, inductionHypothesis]
        grind
      · rw [firstOccurrencesAfter, if_neg occurred, List.mem_cons, inductionHypothesis]
        grind

/-- Two portions, the second one without what has occurred in the first. -/
theorem firstOccurrencesAfter_append (earlier first second : List α) :
    firstOccurrencesAfter earlier (first ++ second) =
      firstOccurrencesAfter earlier first ++
        firstOccurrencesAfter (earlier ++ firstOccurrencesAfter earlier first) second := by
  induction first generalizing earlier with
  | nil => simp [firstOccurrencesAfter]
  | cons item rest inductionHypothesis =>
      by_cases occurred : item ∈ earlier
      · simp only [List.cons_append, firstOccurrencesAfter, if_pos occurred, inductionHypothesis]
      · simp only [List.cons_append, firstOccurrencesAfter, if_neg occurred, inductionHypothesis]
        congr 2
        apply firstOccurrencesAfter_congr
        intro listed
        simp only [List.mem_append, List.mem_cons]
        tauto

theorem mem_firstOccurrences {items : List α} {item : α} :
    item ∈ firstOccurrences items ↔ item ∈ items := by
  simp [firstOccurrences, mem_firstOccurrencesAfter]

theorem firstOccurrences_append (first second : List α) :
    firstOccurrences (first ++ second) =
      firstOccurrences first ++ firstOccurrencesAfter (firstOccurrences first) second :=
  firstOccurrencesAfter_append [] first second

/-- One item more is taken if it is new. -/
theorem firstOccurrences_concat (items : List α) (item : α) :
    firstOccurrences (items ++ [item]) =
      if item ∈ items then firstOccurrences items else firstOccurrences items ++ [item] := by
  rw [firstOccurrences_append]
  by_cases occurred : item ∈ items
  · simp [firstOccurrencesAfter, mem_firstOccurrences, occurred]
  · simp [firstOccurrencesAfter, mem_firstOccurrences, occurred]

/-- First occurrences stand in the order of their places in the list. -/
theorem pairwise_idxOf_firstOccurrences (items : List α) :
    (firstOccurrences items).Pairwise fun first second =>
      items.idxOf first < items.idxOf second := by
  induction items using List.reverseRecOn with
  | nil => exact .nil
  | append_singleton items item inductionHypothesis =>
      -- The places of what has occurred so far do not change.
      have samePlaces : (firstOccurrences items).Pairwise fun first second =>
          (items ++ [item]).idxOf first < (items ++ [item]).idxOf second := by
        refine inductionHypothesis.imp_of_mem ?_
        intro first second firstMem secondMem before
        rw [mem_firstOccurrences] at firstMem secondMem
        rwa [List.idxOf_append_of_mem firstMem, List.idxOf_append_of_mem secondMem]
      rw [firstOccurrences_concat]
      split
      · exact samePlaces
      · rename_i fresh
        refine List.pairwise_append.mpr ⟨samePlaces, List.pairwise_singleton _ _, ?_⟩
        intro earlier earlierMem last lastMem
        rw [mem_firstOccurrences] at earlierMem
        rw [List.mem_singleton] at lastMem
        subst last
        rw [List.idxOf_append_of_mem earlierMem, List.idxOf_append_of_notMem fresh]
        exact Nat.lt_add_right _ (List.idxOf_lt_length_of_mem earlierMem)

end FirstOccurrences

namespace Alphabet

namespace Stores

variable {stores : Stores}

theorem internAll_append (stores : Stores) (first second : List Char) :
    stores.internAll (first ++ second) = (stores.internAll first).internAll second :=
  List.foldl_append

/-- However many characters are interned, the stores stay in step. -/
theorem IsConsistent.internAll (consistent : stores.IsConsistent) (chars : List Char) :
    (stores.internAll chars).IsConsistent := by
  induction chars generalizing stores with
  | nil => exact consistent
  | cons char rest inductionHypothesis => exact inductionHypothesis (consistent.intern char)

theorem IsConsistent.chars_intern (consistent : stores.IsConsistent) (char : Char) :
    (stores.intern char).2.chars = stores.chars ++ firstOccurrencesAfter stores.chars [char] := by
  rcases stores.intern_cases char with ⟨symbol, known, interned⟩ | ⟨unknown, interned⟩
  · have listed : char ∈ stores.chars :=
      List.mem_of_getElem? ((consistent char symbol).mp known).2
    simp [interned, firstOccurrencesAfter, listed]
  · have fresh := consistent.resolve?_eq_none_iff.mp unknown
    simp [interned, Stores.enter, firstOccurrencesAfter, fresh]

/-- Interning adds the first occurrences of what has not been listed before. -/
theorem IsConsistent.chars_internAll (consistent : stores.IsConsistent) (chars : List Char) :
    (stores.internAll chars).chars = stores.chars ++ firstOccurrencesAfter stores.chars chars := by
  induction chars generalizing stores with
  | nil => simp [Stores.internAll, firstOccurrencesAfter]
  | cons char rest inductionHypothesis =>
      have split := firstOccurrencesAfter_append stores.chars [char] rest
      rw [List.singleton_append] at split
      have further := inductionHypothesis (consistent.intern char)
      rw [consistent.chars_intern, List.append_assoc, ← split] at further
      exact further

end Stores

/-- No character is listed at two places. -/
theorem nodup_chars (alphabet : Alphabet) : alphabet.chars.Nodup := by
  refine List.pairwise_iff_getElem.mpr ?_
  intro place later inside laterInside before same
  have found := List.getElem?_eq_getElem inside
  have laterFound := List.getElem?_eq_getElem laterInside
  rw [← same] at laterFound
  have known := (alphabet.consistent _ ⟨place, _⟩).mpr ⟨rfl, found⟩
  have laterKnown := (alphabet.consistent _ ⟨later, _⟩).mpr ⟨rfl, laterFound⟩
  rcases known.symm.trans laterKnown
  exact Nat.lt_irrefl _ before

/-- Characters are code points, and an alphabet repeats none of them. -/
theorem size_le (alphabet : Alphabet) : alphabet.size ≤ 0x110000 := by
  have codesDistinct : (alphabet.chars.map Char.toNat).Nodup :=
    List.pairwise_map.mpr (alphabet.nodup_chars.imp fun different sameCode =>
      different (Char.toNat_inj.mp sameCode))
  have codesBelow : alphabet.chars.map Char.toNat ⊆ List.range 0x110000 := by
    intro code codeMem
    rcases List.mem_map.mp codeMem with ⟨char, _, rfl⟩
    have valid : char.toNat < 0xd800 ∨ 0xdfff < char.toNat ∧ char.toNat < 0x110000 := char.valid
    rw [List.mem_range]
    omega
  have fewer := (List.subperm_of_subset codesDistinct codesBelow).length_le
  rwa [List.length_map, List.length_range] at fewer

end Alphabet

end Lindenmayer
