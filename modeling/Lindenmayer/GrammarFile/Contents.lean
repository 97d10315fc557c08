import Lindenmayer.Grammar.Construction
import Lindenmayer.GrammarFile.Build

/-!
# What a grammar file says

A grammar file tells a grammar its actions, its initiator, its rules and its seed, in this
order and each table in the order of its keys. Here this is written down as a list of edits,
together with what a key has to look like and what one expects of the grammar and the turtle
that come of a file. None of it refers to how a file is gone through.
-/

namespace Lindenmayer

namespace GrammarFile

/-- The names that some entries give. A key that is a character gives one to this character. -/
def actionEdits (entries : List (String × String)) : List GrammarEdit :=
  entries.flatMap fun (key, name) => key.toList.map (GrammarEdit.setAction · name)

def ruleEdits (entries : List (String × RuleBodies)) : List GrammarEdit :=
  entries.flatMap fun (key, bodies) =>
    bodies.toList.flatMap fun body => key.toList.map (GrammarEdit.addRule · body)

def seedEdits (file : GrammarFile) : List GrammarEdit :=
  (file.seed.map GrammarEdit.setSeed).toList

/-- Actions and initiator, which come before all rules. -/
def leadingEdits (file : GrammarFile) : List GrammarEdit :=
  actionEdits file.actions.entries ++ [.setInitiator file.initiator]

def edits (file : GrammarFile) : List GrammarEdit :=
  file.leadingEdits ++ ruleEdits file.rules.entries ++ file.seedEdits

/-- What a file says before it comes to the key of an error. -/
def editsBefore (file : GrammarFile) (error : KeyError) : List GrammarEdit :=
  match error.table with
  | .actions => actionEdits (file.actions.entries.takeWhile (·.1 ≠ error.key))
  | .rules => file.leadingEdits ++ ruleEdits (file.rules.entries.takeWhile (·.1 ≠ error.key))

/-- All keys, in the order in which they are looked at. -/
def keys (file : GrammarFile) : List (FileTable × String) :=
  file.actions.entries.map (fun entry => (.actions, entry.1)) ++
    file.rules.entries.map (fun entry => (.rules, entry.1))

/-- Whether an error tells the first of the keys that are not a single character. -/
structure IsFirstBadKey (file : GrammarFile) (error : KeyError) : Prop where
  bad : error.key.length ≠ 1
  first : ∃ before after, file.keys = before ++ (error.table, error.key) :: after ∧
    ∀ earlier ∈ before, earlier.2.length = 1

/-- The characters of a file in the order in which they come up, with repetitions. -/
def mentioned (file : GrammarFile) : List Char :=
  (file.actions.entries.flatMap fun (key, _) => key.toList) ++ file.initiator.toList ++
    file.rules.entries.flatMap fun (key, bodies) =>
      bodies.toList.flatMap fun body => key.toList ++ body.toList

/-- The bodies listed for a character. -/
def bodiesFor (file : GrammarFile) (char : Char) : List String :=
  ((file.rules.get? (String.singleton char)).map RuleBodies.toList).getD []

/-- Whether a grammar and a turtle are what a file asks for, with nothing lost and nothing added. -/
structure Describes (file : GrammarFile) (grammar : Grammar) (turtle : SilentTurtle) : Prop where
  names : ∀ char, grammar.nameOf? char = file.actions.get? (String.singleton char)
  texts : ∀ char, grammar.textsOf char = file.bodiesFor char
  /-- A symbol without entry, or with an empty list for an entry, is a terminal. -/
  terminals : ∀ symbol ∈ grammar.alphabet.symbols,
    grammar.alternatives symbol = [] ↔ file.bodiesFor symbol.char = []
  initiator : grammar.initiator.text = file.initiator
  seed : grammar.seed = file.seed.getD Grammar.defaultSeed
  /-- Symbols are numbered in the order in which their characters come up first. -/
  alphabet : grammar.alphabet.chars = firstOccurrences file.mentioned
  units : turtle.pen.units = (file.parameters.map Parameters.units).getD .standard
  pose : turtle.pen.pose = (file.parameters.bind Parameters.start).getD .standard
  saved : turtle.pen.saved = []

/--
How far going through the entries of a table gets, and what has been told to the grammar by
then: everything, or what stands before the first key that is not a single character.
-/
inductive Told {α : Type} (table : FileTable) (editsOf : List (String × α) → List GrammarEdit)
    (grammar : Grammar) (entries : List (String × α)) : Except KeyError Unit × Grammar → Prop
  | all (single : ∀ entry ∈ entries, entry.1.length = 1) :
      Told table editsOf grammar entries (.ok (), grammar.performAll (editsOf entries))
  | upTo (before : List (String × α)) (key : String) (value : α) (after : List (String × α))
      (split : entries = before ++ (key, value) :: after)
      (single : ∀ entry ∈ before, entry.1.length = 1) (bad : key.length ≠ 1) :
      Told table editsOf grammar entries
        (.error ⟨table, key⟩, grammar.performAll (editsOf before))

end GrammarFile

end Lindenmayer
