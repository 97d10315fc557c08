import Lindenmayer.KeyedTable
import Lindenmayer.Turtle.Pose

/-!
# Grammar files

A grammar file names the actions of characters, the initiator, the rules, and
optionally the starting units and pose and a seed. It is written by people, so a
rule with a single body may be written as that body alone.
-/

namespace Lindenmayer

/-- The bodies of a rule as they are written. -/
inductive RuleBodies where
  | one (body : String)
  | many (bodies : List String)
deriving DecidableEq, Repr

def RuleBodies.toList : RuleBodies → List String
  | one body => [body]
  | many bodies => bodies

structure Parameters where
  units : Units
  start : Option Pose

structure GrammarFile where
  /-- Action names by character. -/
  actions : KeyedTable String
  initiator : String
  /-- Alternative bodies by character. -/
  rules : KeyedTable RuleBodies
  parameters : Option Parameters
  seed : Option UInt64

end Lindenmayer
