import Mathlib.Data.List.Forall2
import Lindenmayer.KeyedTable

/-!
# Tables do not remember how they were filled

Entries with distinct keys fill a table in one way only, in whatever order they come. If keys
are repeated the order counts, but then entries with the same keys in the same order still
fill their tables alike, so that values can be replaced one by one.
-/

namespace Lindenmayer.KeyedTable

variable {Value Other : Type}

/-- Where a key is new, its entry is put between the others and nothing is lost. -/
theorem insertEntry_perm {key : String} (value : Value) {entries : List (String × Value)}
    (new : ∀ entry ∈ entries, entry.1 ≠ key) :
    (insertEntry key value entries).Perm ((key, value) :: entries) := by
  induction entries with
  | nil => exact .refl _
  | cons head rest inductionHypothesis =>
      rcases head with ⟨listed, held⟩
      rcases List.forall_mem_cons.mp new with ⟨different, restNew⟩
      unfold insertEntry
      split
      · exact .refl _
      · split
        · exact ((inductionHypothesis restNew).cons _).trans (.swap _ _ _)
        · rename_i notBefore notAfter
          exact absurd (String.le_antisymm notBefore notAfter) different

def HaveDistinctKeys (entries : List (String × Value)) : Prop :=
  entries.Pairwise fun one other => one.1 ≠ other.1

theorem HaveDistinctKeys.perm {entries others : List (String × Value)}
    (distinct : HaveDistinctKeys entries) (perm : entries.Perm others) : HaveDistinctKeys others :=
  (perm.pairwise_iff fun different => different.symm).mp distinct

theorem foldl_insert_perm {entries : List (String × Value)} {table : KeyedTable Value}
    (distinct : HaveDistinctKeys (entries ++ table.entries)) :
    (entries.foldl (fun table (key, value) => table.insert key value) table).entries.Perm
      (entries ++ table.entries) := by
  induction entries generalizing table with
  | nil => exact .refl _
  | cons entry rest inductionHypothesis =>
      have new : ∀ held ∈ table.entries, held.1 ≠ entry.1 := by
        intro held isHeld
        have differs := (List.pairwise_cons.mp distinct).1 held (List.mem_append_right rest isHeld)
        exact differs.symm
      have inserted : (table.insert entry.1 entry.2).entries.Perm (entry :: table.entries) :=
        insertEntry_perm entry.2 new
      have moved : (entry :: rest ++ table.entries).Perm
          (rest ++ (table.insert entry.1 entry.2).entries) :=
        List.perm_middle.symm.trans (inserted.symm.append_left rest)
      exact (inductionHypothesis (distinct.perm moved)).trans moved.symm

theorem ofList_perm {entries : List (String × Value)} (distinct : HaveDistinctKeys entries) :
    (ofList entries).entries.Perm entries := by
  have filled : (ofList entries).entries.Perm (entries ++ empty.entries) :=
    foldl_insert_perm (by simpa [empty] using distinct)
  simpa [empty] using filled

theorem eq_of_entries_eq {table other : KeyedTable Value} (same : table.entries = other.entries) :
    table = other := by
  cases table
  cases other
  cases same
  rfl

/-- A table has one entry in each place only. -/
theorem eq_of_entries_perm {table other : KeyedTable Value}
    (perm : table.entries.Perm other.entries) : table = other := by
  apply eq_of_entries_eq
  apply perm.eq_of_pairwise _ table.increasing other.increasing
  intro entry other _ _ before after
  exact absurd (String.lt_trans before after) (String.lt_irrefl _)

/-- Entries with distinct keys fill the same table in every order. -/
theorem ofList_eq_of_perm {entries others : List (String × Value)} (perm : entries.Perm others)
    (distinct : HaveDistinctKeys entries) : ofList entries = ofList others :=
  eq_of_entries_perm
    (((ofList_perm distinct).trans perm).trans (ofList_perm (distinct.perm perm)).symm)

/-- A table is filled again with its own entries. -/
theorem ofList_entries (table : KeyedTable Value) : ofList table.entries = table := by
  have distinct : HaveDistinctKeys table.entries := by
    apply table.increasing.imp
    intro entry other before same
    rw [same] at before
    exact String.lt_irrefl _ before
  exact eq_of_entries_perm (ofList_perm distinct)

/-! ## Values replaced one by one -/

section Replacement

variable {related : Value → Other → Prop}

/-- Entries with the same keys in the same order, and with related values. -/
def MatchEntries (related : Value → Other → Prop) :
    List (String × Value) → List (String × Other) → Prop :=
  List.Forall₂ fun entry other => entry.1 = other.1 ∧ related entry.2 other.2

theorem matchEntries_insertEntry {key : String} {value : Value} {other : Other}
    {entries : List (String × Value)} {others : List (String × Other)}
    (alike : MatchEntries related entries others) (valueRelated : related value other) :
    MatchEntries related (insertEntry key value entries) (insertEntry key other others) := by
  induction alike with
  | nil => exact .cons ⟨rfl, valueRelated⟩ .nil
  | @cons entry otherEntry rest otherRest head tail inductionHypothesis =>
      rcases entry with ⟨listed, held⟩
      rcases otherEntry with ⟨_, otherHeld⟩
      rcases head with ⟨rfl, heldRelated⟩
      unfold insertEntry
      split
      · exact .cons ⟨rfl, valueRelated⟩ (.cons ⟨rfl, heldRelated⟩ tail)
      · split
        · exact .cons ⟨rfl, heldRelated⟩ inductionHypothesis
        · exact .cons ⟨rfl, valueRelated⟩ tail

theorem matchEntries_foldl_insert {entries : List (String × Value)}
    {others : List (String × Other)} (alike : MatchEntries related entries others)
    {table : KeyedTable Value} {otherTable : KeyedTable Other}
    (tablesAlike : MatchEntries related table.entries otherTable.entries) :
    MatchEntries related
      (entries.foldl (fun table (key, value) => table.insert key value) table).entries
      (others.foldl (fun table (key, value) => table.insert key value) otherTable).entries := by
  induction alike generalizing table otherTable with
  | nil => exact tablesAlike
  | @cons entry otherEntry rest otherRest head tail inductionHypothesis =>
      rcases entry with ⟨key, value⟩
      rcases otherEntry with ⟨_, other⟩
      rcases head with ⟨rfl, valueRelated⟩
      exact inductionHypothesis (matchEntries_insertEntry tablesAlike valueRelated)

theorem matchEntries_ofList {entries : List (String × Value)} {others : List (String × Other)}
    (alike : MatchEntries related entries others) :
    MatchEntries related (ofList entries).entries (ofList others).entries :=
  matchEntries_foldl_insert alike .nil

end Replacement

end Lindenmayer.KeyedTable
