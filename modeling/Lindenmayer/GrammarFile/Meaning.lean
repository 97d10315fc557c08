import Lindenmayer.GrammarFile.Text
import Lindenmayer.Json.Meaning

/-!
# What trees mean as grammar files

The meanings of bodies, poses, parameters and whole files, as relations between trees and
values. A record is given field by field.
-/

namespace Lindenmayer

open Json

inductive MeansBodies : Tree → RuleBodies → Prop
  | one {written : List Char} {body : String} (denotes : Denotes written body.toList) :
      MeansBodies (.string written) (.one body)
  | many {trees : List Tree} {bodies : List String} (texts : List.Forall₂ MeansText trees bodies) :
      MeansBodies (.list trees) (.many bodies)

inductive MeansPose : Tree → Pose → Prop
  | mk {first second third : Tree} {x y heading : Float} (isX : MeansFloat first x)
      (isY : MeansFloat second y) (isHeading : MeansFloat third heading) :
      MeansPose (.list [first, second, third]) ⟨⟨x, y⟩, heading⟩

namespace Parameters

def stepMeaning : FieldMeaning Draft where
  name := "step"
  Content := Float
  means := MeansFloat
  part := Draft.step
  put := fun value draft => { draft with step := some value }

def angleMeaning : FieldMeaning Draft where
  name := "angle"
  Content := Float
  means := MeansFloat
  part := Draft.angle
  put := fun value draft => { draft with angle := some value }

def startMeaning : FieldMeaning Draft where
  name := "start"
  Content := Option Pose
  means := MeansOptional MeansPose
  part := Draft.start
  put := fun value draft => { draft with start := some value }

def meanings : List (FieldMeaning Draft) := [stepMeaning, angleMeaning, startMeaning]

def Means : Tree → Parameters → Prop := MeansRecord shape meanings

end Parameters

namespace GrammarFile

def actionsMeaning : FieldMeaning Draft where
  name := "actions"
  Content := KeyedTable String
  means := MeansTable MeansText
  part := Draft.actions
  put := fun value draft => { draft with actions := some value }

def initiatorMeaning : FieldMeaning Draft where
  name := "axiom"
  Content := String
  means := MeansText
  part := Draft.initiator
  put := fun value draft => { draft with initiator := some value }

def rulesMeaning : FieldMeaning Draft where
  name := "rules"
  Content := KeyedTable RuleBodies
  means := MeansTable MeansBodies
  part := Draft.rules
  put := fun value draft => { draft with rules := some value }

def parametersMeaning : FieldMeaning Draft where
  name := "parameters"
  Content := Option Parameters
  means := MeansOptional Parameters.Means
  part := Draft.parameters
  put := fun value draft => { draft with parameters := some value }

def seedMeaning : FieldMeaning Draft where
  name := "seed"
  Content := Option UInt64
  means := MeansOptional MeansUnsigned
  part := Draft.seed
  put := fun value draft => { draft with seed := some value }

def meanings : List (FieldMeaning Draft) :=
  [actionsMeaning, initiatorMeaning, rulesMeaning, parametersMeaning, seedMeaning]

def Means : Tree → GrammarFile → Prop := MeansRecord shape meanings

end GrammarFile

end Lindenmayer
