/-!
# Tables sorted by key

A table holds one value for each of its keys and lists them in increasing order
of keys, texts being compared by code points. The order is part of the type, so
two tables with the same entries are equal, in whatever order they were filled.
-/

namespace Lindenmayer

/-- Values under distinct keys, in increasing order of keys. -/
structure KeyedTable (Value : Type) where
  entries : List (String × Value)
  increasing : entries.Pairwise fun earlier later => earlier.1 < later.1

namespace KeyedTable

variable {Value : Type}

def empty : KeyedTable Value := ⟨[], .nil⟩

instance : Inhabited (KeyedTable Value) := ⟨empty⟩

/-- Puts an entry in its place, instead of an earlier one of the same key. -/
def insertEntry (key : String) (value : Value) : List (String × Value) → List (String × Value)
  | [] => [(key, value)]
  | (listed, held) :: rest =>
    if key < listed then (key, value) :: (listed, held) :: rest
    else if listed < key then (listed, held) :: insertEntry key value rest
    else (key, value) :: rest

theorem mem_insertEntry {key : String} {value : Value} {entries : List (String × Value)}
    {entry : String × Value} (member : entry ∈ insertEntry key value entries) :
    entry = (key, value) ∨ entry ∈ entries := by
  induction entries with
  | nil => simpa [insertEntry] using member
  | cons head rest inductionHypothesis =>
    obtain ⟨listed, held⟩ := head
    simp only [insertEntry] at member
    split at member
    · simpa using member
    · split at member
      · rcases List.mem_cons.mp member with equal | inRest
        · exact .inr (by simp [equal])
        · rcases inductionHypothesis inRest with equal | inRest
          · exact .inl equal
          · exact .inr (List.mem_cons_of_mem _ inRest)
      · rcases List.mem_cons.mp member with equal | inRest
        · exact .inl equal
        · exact .inr (List.mem_cons_of_mem _ inRest)

/-- Putting an entry in its place keeps the keys increasing. -/
theorem pairwise_insertEntry (key : String) (value : Value) {entries : List (String × Value)}
    (increasing : entries.Pairwise fun earlier later => earlier.1 < later.1) :
    (insertEntry key value entries).Pairwise fun earlier later => earlier.1 < later.1 := by
  induction entries with
  | nil => simp [insertEntry]
  | cons head rest inductionHypothesis =>
    obtain ⟨listed, held⟩ := head
    obtain ⟨headLeast, restIncreasing⟩ := List.pairwise_cons.mp increasing
    simp only [insertEntry]
    split
    · rename_i before
      refine List.pairwise_cons.mpr ⟨?_, increasing⟩
      intro entry member
      rcases List.mem_cons.mp member with equal | inRest
      · exact equal ▸ before
      · exact String.lt_trans before (headLeast entry inRest)
    · split
      · rename_i after
        refine List.pairwise_cons.mpr ⟨?_, inductionHypothesis restIncreasing⟩
        intro entry member
        rcases mem_insertEntry member with equal | inRest
        · exact equal ▸ after
        · exact headLeast entry inRest
      · rename_i notBefore notAfter
        have same : key = listed := String.le_antisymm notAfter notBefore
        refine List.pairwise_cons.mpr ⟨?_, restIncreasing⟩
        intro entry inRest
        exact same ▸ headLeast entry inRest

def insert (table : KeyedTable Value) (key : String) (value : Value) : KeyedTable Value where
  entries := insertEntry key value table.entries
  increasing := pairwise_insertEntry key value table.increasing

/-- Fills a table with entries, the last one prevailing where a key is repeated. -/
def ofList (entries : List (String × Value)) : KeyedTable Value :=
  entries.foldl (fun table (key, value) => table.insert key value) empty

def get? (table : KeyedTable Value) (key : String) : Option Value :=
  table.entries.lookup key

end KeyedTable

end Lindenmayer
