/-!
# Sets of characters

A character class of the Unicode standard is written as a table of ranges.
-/

namespace Lindenmayer.Text

/-- A set of characters, given by ranges of code points, both ends included. -/
structure CharTable where
  /-- Ranges of which every character belongs. -/
  solid : List (Nat × Nat)
  /-- Ranges of which every second character belongs, the first one included. -/
  alternating : List (Nat × Nat)

def CharTable.contains (table : CharTable) (char : Char) : Bool :=
  let code := char.toNat
  table.solid.any (fun (first, last) => first ≤ code && code ≤ last) ||
    table.alternating.any fun (first, last) =>
      first ≤ code && code ≤ last && (code - first) % 2 = 0

end Lindenmayer.Text
