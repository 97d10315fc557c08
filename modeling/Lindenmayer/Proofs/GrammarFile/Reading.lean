import Lindenmayer.GrammarFile.Meaning
import Lindenmayer.Proofs.Json.Meaning
import Lindenmayer.Proofs.Json.Reading

/-!
# Grammar files are read as what they mean

The readers of bodies, poses, parameters and files, put together from those of their parts. So
what is read of a text is settled by its tree.
-/

namespace Lindenmayer

open Json
open Relator (RightUnique)

/-! ## Bodies and poses -/

theorem meansText_of_textOf? {tree : Tree} {value : Value} {text : String}
    (means : Means tree value) (given : RuleBodies.ofJson?.textOf? value = some text) : MeansText tree text := by
  cases means with
  | string denotes =>
      cases given
      exact ⟨_, rfl, denotes⟩
  | _ => cases given

theorem meansTexts_of_mapM {trees : List Tree} {values : List Value} {texts : List String}
    (means : List.Forall₂ Means trees values)
    (given : values.mapM RuleBodies.ofJson?.textOf? = some texts) :
    List.Forall₂ MeansText trees texts := by
  induction means generalizing texts with
  | nil =>
      cases given
      exact .nil
  | @cons tree value trees values treeMeans _ inductionHypothesis =>
      rw [List.mapM_cons] at given
      rcases Option.bind_eq_some_iff.mp given with ⟨text, isText, givenOthers⟩
      rcases Option.bind_eq_some_iff.mp givenOthers with ⟨others, areTexts, same⟩
      cases same
      exact .cons (meansText_of_textOf? treeMeans isText) (inductionHypothesis areTexts)

theorem meansBodies_of_ofJson? {tree : Tree} {value : Value} {bodies : RuleBodies}
    (means : Means tree value) (given : RuleBodies.ofJson? value = some bodies) :
    MeansBodies tree bodies := by
  cases means with
  | string denotes =>
      cases given
      exact .one denotes
  | list elements =>
      rcases Option.map_eq_some_iff.mp given with ⟨texts, mapped, rfl⟩
      exact .many (meansTexts_of_mapM elements mapped)
  | _ => cases given

theorem reads_bodies (levels : Nat) : Reads (RuleBodies.read levels) MeansBodies := by
  rintro blanks chars rest tree result blank spells ends ended
  rcases Reader.bind_eq_ok_iff.mp ended with ⟨value, _, taken, converted⟩
  rcases Reader.reads_value levels blank spells ends taken with ⟨means, rfl⟩
  cases given : RuleBodies.ofJson? value with
  | none =>
      simp only [given] at converted
      cases converted
  | some bodies =>
      simp only [given] at converted
      rcases Reader.pure_eq_ok_iff.mp converted with rfl
      exact ⟨meansBodies_of_ofJson? means given, rfl⟩

theorem reads_start (levels : Nat) : Reads (Parameters.readStart levels) MeansPose := by
  rintro blanks chars rest tree ⟨pose, last⟩ blank spells ends ended
  rcases Reader.listOf_eq_ok blank spells ended with
    ⟨inside, trees, inner, left, rfl, spelled, body, closed⟩
  rcases Reader.bind_eq_ok_iff.mp body with ⟨x, _, xTaken, afterX⟩
  rcases Reader.required_eq_ok Reader.reads_float spelled xTaken with
    ⟨_, _, _, rfl, isX, spelledAfterX, rfl⟩
  rcases Reader.bind_eq_ok_iff.mp afterX with ⟨y, _, yTaken, afterY⟩
  rcases Reader.required_eq_ok Reader.reads_float spelledAfterX yTaken with
    ⟨_, _, _, rfl, isY, spelledAfterY, rfl⟩
  rcases Reader.bind_eq_ok_iff.mp afterY with ⟨heading, _, headingTaken, returned⟩
  rcases Reader.required_eq_ok Reader.reads_float spelledAfterY headingTaken with
    ⟨_, _, _, rfl, isHeading, spelledAfter, rfl⟩
  cases Reader.pure_eq_ok_iff.mp returned
  rcases Reader.listEnd_eq_ok spelledAfter closed with ⟨rfl, rfl⟩
  exact ⟨.mk isX isY isHeading, rfl⟩

theorem meansBodies_unique : RightUnique MeansBodies := by
  intro tree bodies other first second
  cases first with
  | one denotes =>
      cases second with
      | one otherDenotes => rw [denotes.string_unique otherDenotes]
  | many texts =>
      cases second with
      | many otherTexts => rw [meansText_unique.forall₂ texts otherTexts]

theorem meansPose_unique : RightUnique MeansPose := by
  intro tree pose other first second
  cases first with
  | mk isX isY isHeading =>
      cases second with
      | mk otherX otherY otherHeading =>
          rw [meansFloat_unique isX otherX, meansFloat_unique isY otherY,
            meansFloat_unique isHeading otherHeading]

/-! ## Records -/

namespace Parameters

theorem reads_fields (field : RecordField Draft) (isField : field ∈ shape.fields) (levels : Nat)
    (draft : Draft) :
    Reads (field.read levels draft) fun tree => GivesField meanings field.name tree draft := by
  simp only [shape, List.mem_cons, List.not_mem_nil, or_false] at isField
  rcases isField with rfl | rfl | rfl
  · exact reads_field stepMeaning (by simp [meanings]) draft Reader.reads_float
  · exact reads_field angleMeaning (by simp [meanings]) draft Reader.reads_float
  · exact reads_field startMeaning (by simp [meanings]) draft
      (Reader.reads_optional (reads_start levels))

theorem fitRecord : FitRecord shape meanings where
  distinct := by simp [meanings, stepMeaning, angleMeaning, startMeaning]
  unique := by
    intro meaning isMeaning
    simp only [meanings, List.mem_cons, List.not_mem_nil, or_false] at isMeaning
    rcases isMeaning with rfl | rfl | rfl
    · exact meansFloat_unique
    · exact meansFloat_unique
    · exact meansOptional_unique meansPose_unique
  known := by simp [meanings, stepMeaning, angleMeaning, startMeaning, shape]
  blank := by simp [meanings, stepMeaning, angleMeaning, startMeaning, shape]
  own := by simp [meanings, stepMeaning, angleMeaning, startMeaning]
  others := by simp [meanings, stepMeaning, angleMeaning, startMeaning]

theorem reads_means (levels : Nat) : Reads (shape.read levels) Means :=
  Reader.reads_record reads_fields levels

end Parameters

namespace GrammarFile

theorem reads_fields (field : RecordField Draft) (isField : field ∈ shape.fields) (levels : Nat)
    (draft : Draft) :
    Reads (field.read levels draft) fun tree => GivesField meanings field.name tree draft := by
  simp only [shape, List.mem_cons, List.not_mem_nil, or_false] at isField
  rcases isField with rfl | rfl | rfl | rfl | rfl
  · exact reads_field actionsMeaning (by simp [meanings]) draft
      (Reader.reads_table fun _ => Reader.reads_text)
  · exact reads_field initiatorMeaning (by simp [meanings]) draft Reader.reads_text
  · exact reads_field rulesMeaning (by simp [meanings]) draft (Reader.reads_table reads_bodies)
  · exact reads_field parametersMeaning (by simp [meanings]) draft
      (Reader.reads_optional (Parameters.reads_means levels))
  · exact reads_field seedMeaning (by simp [meanings]) draft
      (Reader.reads_optional Reader.reads_unsigned)

theorem fitRecord : FitRecord shape meanings where
  distinct := by
    simp [meanings, actionsMeaning, initiatorMeaning, rulesMeaning, parametersMeaning, seedMeaning]
  unique := by
    intro meaning isMeaning
    simp only [meanings, List.mem_cons, List.not_mem_nil, or_false] at isMeaning
    rcases isMeaning with rfl | rfl | rfl | rfl | rfl
    · exact meansTable_unique meansText_unique
    · exact meansText_unique
    · exact meansTable_unique meansBodies_unique
    · exact meansOptional_unique (meansRecord_unique Parameters.fitRecord)
    · exact meansOptional_unique meansUnsigned_unique
  known := by
    simp [meanings, actionsMeaning, initiatorMeaning, rulesMeaning, parametersMeaning, seedMeaning,
      shape]
  blank := by
    simp [meanings, actionsMeaning, initiatorMeaning, rulesMeaning, parametersMeaning, seedMeaning,
      shape]
  own := by
    simp [meanings, actionsMeaning, initiatorMeaning, rulesMeaning, parametersMeaning, seedMeaning]
  others := by
    simp [meanings, actionsMeaning, initiatorMeaning, rulesMeaning, parametersMeaning, seedMeaning]

/-- A text that is read as a grammar file is read as what its tree means. -/
theorem means_of_ofText {text : String} {tree : Tree} {file : GrammarFile}
    (isText : IsTextOf text tree) (read : ofText text = .ok file) : Means tree file :=
  Reader.means_of_run (Reader.reads_record reads_fields _) isText read

end GrammarFile

end Lindenmayer
