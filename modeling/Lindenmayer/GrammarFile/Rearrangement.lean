import Mathlib.Data.List.Forall2
import Lindenmayer.Json.Tree

/-!
# Grammar files written in different orders

What people may change about a written grammar file without meaning anything else by it: the
order of its members, the order of the entries of actions and rules, members that nobody asks
for, and the brackets around a single body. This is said of what is written, not of what is
read.
-/

namespace Lindenmayer

open Json

namespace GrammarFile

/-- The names of the members that belong to a grammar file. -/
def memberNames : List String := ["actions", "axiom", "rules", "parameters", "seed"]

/-- Whether a written name is none of a grammar file. -/
def IsStray (written : List Char) : Prop :=
  ∀ name ∈ memberNames, ¬Denotes written name.toList

/-- Whether no two members have names that stand for the same text. -/
def NamesDiffer (members : List (List Char × Tree)) : Prop :=
  members.Pairwise fun one other => ∀ text, Denotes one.1 text → ¬Denotes other.1 text

/-- Whether two trees are the same, except that a single body may stand in brackets or without. -/
inductive SameBodies : Tree → Tree → Prop
  | same (tree : Tree) : SameBodies tree tree
  | bracketed (written : List Char) : SameBodies (.string written) (.list [.string written])
  | bare (written : List Char) : SameBodies (.list [.string written]) (.string written)

/-- Whether two members are the same but for the order of entries and for single bodies. -/
inductive SameMember : List Char × Tree → List Char × Tree → Prop
  | same (member : List Char × Tree) : SameMember member member
  | actions {written : List Char} {entries others : List (List Char × Tree)}
      (isActions : Denotes written "actions".toList) (distinct : NamesDiffer entries)
      (perm : entries.Perm others) : SameMember (written, .object entries) (written, .object others)
  | rules {written : List Char} {entries reordered others : List (List Char × Tree)}
      (isRules : Denotes written "rules".toList) (distinct : NamesDiffer entries)
      (perm : entries.Perm reordered)
      (alike : List.Forall₂ (fun entry other => entry.1 = other.1 ∧ SameBodies entry.2 other.2)
        reordered others) :
      SameMember (written, .object entries) (written, .object others)

/--
Whether two lists of members differ in their order, in stray members and within actions and
rules only.
-/
inductive SameUpToOrder (first second : List (List Char × Tree)) : Prop
  | intro {members strays others otherStrays : List (List Char × Tree)}
      (firstParts : first.Perm (members ++ strays))
      (secondParts : second.Perm (others ++ otherStrays))
      (firstStrays : ∀ stray ∈ strays, IsStray stray.1)
      (secondStrays : ∀ stray ∈ otherStrays, IsStray stray.1)
      (alike : List.Forall₂ SameMember members others)

end GrammarFile

end Lindenmayer
