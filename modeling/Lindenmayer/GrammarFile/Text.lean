import Lindenmayer.GrammarFile.Basic
import Lindenmayer.Interchange

/-!
# The text of grammar files

A grammar file is written as a JSON object. Reading also takes the list of its
fields in their order. Rules, parameters and seed may be left out, and the last
two may be `null`; parameters hold step, angle and optionally the list of the
starting coordinates and heading.
-/

namespace Lindenmayer

open Json

namespace RuleBodies

def ofJson? : Value → Option RuleBodies
  | .string body => some (one body)
  | .list elements => (elements.mapM textOf?).map many
  | _ => none
where
  textOf? : Value → Option String
    | .string text => some text
    | _ => none

/-- Takes off bodies; the value is read to its end before its form is looked at. -/
def read (levels : Nat) : Reader RuleBodies := do
  match ofJson? (← Reader.value levels) with
  | some bodies => return bodies
  | none => Reader.misfitAround (.noFormFits "RuleBodies")

def toJson : RuleBodies → Value
  | one body => .string body
  | many bodies => .list (bodies.map .string)

end RuleBodies

namespace Parameters

def expectedStart : String := "an array of length 3"

def readStart (levels : Nat) : Reader Pose :=
  Reader.listOf levels expectedStart fun _ => do
    let x ← Reader.required 0 expectedStart Reader.float
    let y ← Reader.required 1 expectedStart Reader.float
    let heading ← Reader.required 2 expectedStart Reader.float
    return ⟨⟨x, y⟩, heading⟩

/-- Parameters of which some fields have been read. -/
structure Draft where
  step : Option Float := none
  angle : Option Float := none
  start : Option (Option Pose) := none

def shape : RecordShape Draft Parameters where
  name := "Parameters"
  fields := [
    { name := "step"
      required := true
      given := fun draft => draft.step.isSome
      read := fun _ draft => do return { draft with step := some (← Reader.float) } },
    { name := "angle"
      required := true
      given := fun draft => draft.angle.isSome
      read := fun _ draft => do return { draft with angle := some (← Reader.float) } },
    { name := "start"
      required := false
      given := fun draft => draft.start.isSome
      read := fun levels draft => do
        return { draft with start := some (← Reader.optional (readStart levels)) } }]
  blank := {}
  complete
    | { step := none, .. } => .error "step"
    | { angle := none, .. } => .error "angle"
    | { step := some step, angle := some angle, start } => .ok ⟨⟨step, angle⟩, start.join⟩

def startToJson (pose : Pose) : Value :=
  .list [.float pose.position.x, .float pose.position.y, .float pose.heading]

def toJson (parameters : Parameters) : Value :=
  .object [
    ("step", .float parameters.units.step),
    ("angle", .float parameters.units.angle),
    ("start", .optional startToJson parameters.start)]

end Parameters

namespace GrammarFile

structure Draft where
  actions : Option (KeyedTable String) := none
  initiator : Option String := none
  rules : Option (KeyedTable RuleBodies) := none
  parameters : Option (Option Parameters) := none
  seed : Option (Option UInt64) := none

def shape : RecordShape Draft GrammarFile where
  name := "LSystemConfig"
  fields := [
    { name := "actions"
      required := true
      given := fun draft => draft.actions.isSome
      read := fun levels draft => do
        return { draft with actions := some (← Reader.table levels fun _ => Reader.text) } },
    { name := "axiom"
      required := true
      given := fun draft => draft.initiator.isSome
      read := fun _ draft => do return { draft with initiator := some (← Reader.text) } },
    { name := "rules"
      required := false
      given := fun draft => draft.rules.isSome
      read := fun levels draft => do
        return { draft with rules := some (← Reader.table levels RuleBodies.read) } },
    { name := "parameters"
      required := false
      given := fun draft => draft.parameters.isSome
      read := fun levels draft => do
        let parameters ← Reader.optional (Parameters.shape.read levels)
        return { draft with parameters := some parameters } },
    { name := "seed"
      required := false
      given := fun draft => draft.seed.isSome
      read := fun _ draft => do
        return { draft with seed := some (← Reader.optional Reader.unsigned) } }]
  blank := {}
  complete
    | { actions := none, .. } => .error "actions"
    | { initiator := none, .. } => .error "axiom"
    | { actions := some actions, initiator := some initiator, rules, parameters, seed } =>
      .ok {
        actions
        initiator
        rules := rules.getD .empty
        parameters := parameters.join
        seed := seed.join }

def ofText (text : String) : Except Json.Error GrammarFile :=
  Reader.run (shape.read Reader.deepestNesting) text

/-- A table as a value, one member for each entry. -/
def tableToJson {α : Type} (encode : α → Value) (table : KeyedTable α) : Value :=
  .object (table.entries.map fun (key, value) => (key, encode value))

def toJson (file : GrammarFile) : Value :=
  .object [
    ("actions", tableToJson .string file.actions),
    ("axiom", .string file.initiator),
    ("rules", tableToJson RuleBodies.toJson file.rules),
    ("parameters", .optional Parameters.toJson file.parameters),
    ("seed", .optional (fun seed => .number (.unsigned seed)) file.seed)]

def toText (file : GrammarFile) : String := file.toJson.text

end GrammarFile

end Lindenmayer
