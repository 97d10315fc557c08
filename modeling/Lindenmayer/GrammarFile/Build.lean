import Lindenmayer.Grammar.Basic
import Lindenmayer.GrammarFile.Basic
import Lindenmayer.Turtle.Silent

/-!
# Grammars from grammar files

What a grammar file says is added to a grammar entry by entry: actions, then the
initiator, then rules, each table in the order of its keys. A key that is not a
single character ends this on the spot. The entries before it have been added by
then and stay; units, pose and seed come last and are not reached.
-/

namespace Lindenmayer

inductive FileTable where
  | actions
  | rules
deriving DecidableEq, Repr

def FileTable.name : FileTable → String
  | actions => "actions"
  | rules => "rules"

/-- A key that is not a single character. -/
structure KeyError where
  table : FileTable
  key : String
deriving DecidableEq, Repr

def KeyError.message (error : KeyError) : String :=
  "configuration error: " ++ error.table.name ++ " key `" ++ error.key ++
    "` must be exactly one character"

namespace GrammarFile

def singleChar? (key : String) : Option Char :=
  match key.toList with
  | [char] => some char
  | _ => none

/-- Binds action names, up to the first key that is not a character. -/
def addActions (grammar : Grammar) : List (String × String) → Except KeyError Unit × Grammar
  | [] => (.ok (), grammar)
  | (key, name) :: rest =>
    match singleChar? key with
    | none => (.error ⟨.actions, key⟩, grammar)
    | some char => addActions (grammar.setAction char name) rest

def addBodies (grammar : Grammar) (char : Char) (bodies : List String) : Grammar :=
  bodies.foldl (fun grammar body => grammar.addRule char body) grammar

/-- Adds rules, up to the first key that is not a character. -/
def addRules (grammar : Grammar) : List (String × RuleBodies) → Except KeyError Unit × Grammar
  | [] => (.ok (), grammar)
  | (key, bodies) :: rest =>
    match singleChar? key with
    | none => (.error ⟨.rules, key⟩, grammar)
    | some char => addRules (addBodies grammar char bodies.toList) rest

/-- Adds actions, initiator and rules to a grammar. -/
def addTo (file : GrammarFile) (grammar : Grammar) : Except KeyError Unit × Grammar :=
  match addActions grammar file.actions.entries with
  | (.error error, grammar) => (.error error, grammar)
  | (.ok (), grammar) => addRules (grammar.setInitiator file.initiator) file.rules.entries

def placeTurtle {τ : Type} [Turtle τ] (file : GrammarFile) (turtle : τ) : τ :=
  match file.parameters with
  | none => turtle
  | some parameters =>
    let turtle := Turtle.setUnits turtle parameters.units
    match parameters.start with
    | none => turtle
    | some pose => Turtle.reset turtle pose

def setSeed (file : GrammarFile) (grammar : Grammar) : Grammar :=
  match file.seed with
  | none => grammar
  | some seed => grammar.setSeed seed

/-- What has become of a grammar and a turtle, whether or not all went well. -/
structure Applied (τ : Type) where
  outcome : Except KeyError Unit
  grammar : Grammar
  turtle : τ

def apply {τ : Type} [Turtle τ] (file : GrammarFile) (grammar : Grammar) (turtle : τ) :
    Applied τ :=
  match file.addTo grammar with
  | (.error error, grammar) => ⟨.error error, grammar, turtle⟩
  | (.ok (), grammar) => ⟨.ok (), file.setSeed grammar, file.placeTurtle turtle⟩

/-- The grammar that the file describes, and a turtle at the starting pose. -/
def build (file : GrammarFile) : Except KeyError (Grammar × SilentTurtle) :=
  match file.apply .empty SilentTurtle.standard with
  | ⟨.error error, _, _⟩ => .error error
  | ⟨.ok (), grammar, turtle⟩ => .ok (grammar, turtle)

end GrammarFile

end Lindenmayer
