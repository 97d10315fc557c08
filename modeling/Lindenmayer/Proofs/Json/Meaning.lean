import Lindenmayer.Json.Meaning
import Lindenmayer.Proofs.Json.Strings

/-!
# Trees mean one thing at most

Besides, what the members of an object make of a field depends on the one member only that is
called so, wherever it stands.
-/

namespace Lindenmayer.Json

open Relator (RightUnique)

variable {α : Type} {means : Tree → α → Prop} {written : List Char} {name other : String}

/-! ## Uniqueness -/

theorem Denotes.string_unique (first : Denotes written name.toList)
    (second : Denotes written other.toList) : name = other :=
  String.toList_inj.mp (first.unique second)

theorem meansText_unique : RightUnique MeansText := by
  rintro _ text other ⟨written, rfl, denotes⟩ ⟨_, same, otherDenotes⟩
  cases same
  exact denotes.string_unique otherDenotes

theorem meansFloat_unique : RightUnique MeansFloat := by
  rintro _ value other ⟨numeral, number, rfl, read, rfl⟩ ⟨_, otherNumber, same, otherRead, rfl⟩
  cases same
  cases read.symm.trans otherRead
  rfl

theorem meansUnsigned_unique : RightUnique MeansUnsigned := by
  rintro _ value other ⟨numeral, rfl, read⟩ ⟨_, same, otherRead⟩
  cases same
  cases read.symm.trans otherRead
  rfl

theorem meansOptional_unique (unique : RightUnique means) : RightUnique (MeansOptional means) := by
  intro tree value other first second
  cases first with
  | none =>
      cases second with
      | none => rfl
      | some notNull _ => contradiction
  | some notNull item =>
      cases second with
      | none => contradiction
      | some _ otherItem => rw [unique item otherItem]

theorem meansEntries_unique (unique : RightUnique means) : RightUnique (MeansEntries means) := by
  apply RightUnique.forall₂
  rintro member ⟨key, value⟩ ⟨otherKey, otherValue⟩ ⟨denotes, meant⟩ ⟨otherDenotes, otherMeant⟩
  exact Prod.ext (denotes.string_unique otherDenotes) (unique meant otherMeant)

theorem meansTable_unique (unique : RightUnique means) : RightUnique (MeansTable means) := by
  rintro _ table other ⟨members, entries, rfl, meant, rfl⟩ ⟨_, otherEntries, same, otherMeant, rfl⟩
  cases same
  rw [meansEntries_unique unique meant otherMeant]

/-! ## Records -/

section Records

variable {Draft : Type} {shape : RecordShape Draft α} {meanings : List (FieldMeaning Draft)}

/-- Whether meanings fit the fields of a record and do not get in each other's way. -/
structure FitRecord (shape : RecordShape Draft α) (meanings : List (FieldMeaning Draft)) :
    Prop where
  /-- Meanings are told apart by their names. -/
  distinct : ∀ one ∈ meanings, ∀ other ∈ meanings, one.name = other.name → one = other
  unique : ∀ meaning ∈ meanings, RightUnique meaning.means
  known : ∀ meaning ∈ meanings, ∃ field, shape.fields.find? (·.name = meaning.name) = some field ∧
    ∀ draft, field.given draft = (meaning.part draft).isSome
  blank : ∀ meaning ∈ meanings, meaning.part shape.blank = none
  own : ∀ meaning ∈ meanings, ∀ content draft,
    meaning.part (meaning.put content draft) = some content
  others : ∀ one ∈ meanings, ∀ other ∈ meanings, one.name ≠ other.name → ∀ content draft,
    one.part (other.put content draft) = one.part draft

variable {meaning : FieldMeaning Draft} {tree : Tree} {draft next last : Draft}
  {members : List (List Char × Tree)} (fit : FitRecord shape meanings)

include fit

namespace FitRecord

theorem part_of_gives (isMeaning : meaning ∈ meanings)
    (gives : GivesField meanings meaning.name tree draft next) :
    ∃ content, meaning.means tree content ∧ meaning.part next = some content := by
  cases gives with
  | @intro other isOther called content meant =>
      cases fit.distinct _ isOther _ isMeaning called
      exact ⟨content, meant, fit.own _ isMeaning content draft⟩

theorem kept (isMeaning : meaning ∈ meanings) {field : RecordField Draft}
    (known : shape.fields.find? (·.name = other) = some field) (different : other ≠ meaning.name)
    (gives : GivesField meanings field.name tree draft next) :
    meaning.part next = meaning.part draft := by
  have field_name : field.name = other := by simpa using List.find?_some known
  cases gives with
  | @intro otherMeaning isOther called content _ =>
      have namesDiffer : meaning.name ≠ otherMeaning.name := by
        rw [called, field_name]
        exact different.symm
      exact fit.others _ isMeaning _ isOther namesDiffer content draft

theorem not_denotes (isMeaning : meaning ∈ meanings) (denotes : Denotes written other.toList)
    (unknown : shape.fields.find? (·.name = other) = none) :
    ¬Denotes written meaning.name.toList := by
  intro called
  rcases fit.known _ isMeaning with ⟨field, known, _⟩
  rw [called.string_unique denotes, unknown] at known
  cases known

end FitRecord

theorem givesField_unique : RightUnique fun tree => GivesField meanings name tree draft := by
  intro tree next other first second
  cases first with
  | intro isMeaning called meant =>
      cases second with
      | intro isOther otherCalled otherMeant =>
          cases fit.distinct _ isMeaning _ isOther (called.trans otherCalled.symm)
          cases fit.unique _ isMeaning meant otherMeant
          rfl

theorem fillsMembers_unique {otherLast : Draft}
    (first : FillsMembers shape meanings members draft last)
    (second : FillsMembers shape meanings members draft otherLast) : last = otherLast := by
  induction first with
  | nil draft =>
      cases second
      rfl
  | unknown denotes unknown _ inductionHypothesis =>
      cases second with
      | unknown _ _ further => exact inductionHypothesis further
      | field otherDenotes known _ _ _ =>
          cases denotes.string_unique otherDenotes
          rw [unknown] at known
          cases known
  | field denotes known _ value _ inductionHypothesis =>
      cases second with
      | unknown otherDenotes unknown _ =>
          cases denotes.string_unique otherDenotes
          rw [unknown] at known
          cases known
      | field otherDenotes otherKnown _ otherValue further =>
          cases denotes.string_unique otherDenotes
          cases known.symm.trans otherKnown
          cases givesField_unique fit value otherValue
          exact inductionHypothesis further

theorem fillsElements_unique {fields : List (RecordField Draft)} {trees : List Tree}
    {otherLast : Draft} (first : FillsElements meanings fields trees draft last)
    (second : FillsElements meanings fields trees draft otherLast) : last = otherLast := by
  induction first with
  | nil draft =>
      cases second
      rfl
  | absent _ _ inductionHypothesis =>
      cases second with
      | absent _ further => exact inductionHypothesis further
  | field value _ inductionHypothesis =>
      cases second with
      | field otherValue further =>
          cases givesField_unique fit value otherValue
          exact inductionHypothesis further

theorem meansRecord_unique : RightUnique (MeansRecord shape meanings) := by
  intro tree value other first second
  cases first with
  | object fills complete =>
      cases second with
      | object otherFills otherComplete =>
          cases fillsMembers_unique fit fills otherFills
          cases complete.symm.trans otherComplete
          rfl
  | list fills complete =>
      cases second with
      | list otherFills otherComplete =>
          cases fillsElements_unique fit fills otherFills
          cases complete.symm.trans otherComplete
          rfl

/-! ## Single fields -/

omit fit in
/--
What members give for a name: nothing if none is called so, and otherwise what the only one
means that is. The order of the members does not matter for this.
-/
inductive GivesFor {β : Type} (name : String) (means : Tree → β → Prop)
    (members : List (List Char × Tree)) : Option β → Prop
  | none (absent : ∀ member ∈ members, ¬Denotes member.1 name.toList) :
      GivesFor name means members none
  | some {member : List Char × Tree} {value : β} (isMember : member ∈ members)
      (denotes : Denotes member.1 name.toList) (meant : means member.2 value)
      (only : ∀ other ∈ members, Denotes other.1 name.toList → other = member) :
      GivesFor name means members (some value)

omit fit in
theorem GivesFor.cons {β : Type} {contentMeans : Tree → β → Prop} {member : List Char × Tree}
    {value : Option β} (gives : GivesFor name contentMeans members value)
    (notCalled : ¬Denotes member.1 name.toList) :
    GivesFor name contentMeans (member :: members) value := by
  cases gives with
  | none absent => exact .none (List.forall_mem_cons.mpr ⟨notCalled, absent⟩)
  | some isMember denotes meant only =>
      refine .some (List.mem_cons_of_mem _ isMember) denotes meant ?_
      exact List.forall_mem_cons.mpr ⟨fun called => absurd called notCalled, only⟩

/-- A field that has been given is not given once more. -/
theorem part_of_given (isMeaning : meaning ∈ meanings)
    (fills : FillsMembers shape meanings members draft last) (given : (meaning.part draft).isSome) :
    meaning.part last = meaning.part draft ∧
      ∀ member ∈ members, ¬Denotes member.1 meaning.name.toList := by
  induction fills with
  | nil draft => exact ⟨rfl, List.forall_mem_nil _⟩
  | unknown denotes unknown _ inductionHypothesis =>
      rcases inductionHypothesis given with ⟨kept, absent⟩
      exact ⟨kept, List.forall_mem_cons.mpr ⟨fit.not_denotes isMeaning denotes unknown, absent⟩⟩
  | @field written other tree others field draft next last denotes known fresh value _
      inductionHypothesis =>
      -- A second member of the same name would have been refused as not fresh.
      have different : other ≠ meaning.name := by
        rintro rfl
        rcases fit.known _ isMeaning with ⟨_, alsoKnown, givenBy⟩
        cases known.symm.trans alsoKnown
        rw [givenBy, given] at fresh
        cases fresh
      have kept := fit.kept isMeaning known different value
      rcases inductionHypothesis (kept ▸ given) with ⟨keptFurther, absent⟩
      refine ⟨keptFurther.trans kept, List.forall_mem_cons.mpr ⟨?_, absent⟩⟩
      intro called
      exact different (denotes.string_unique called)

theorem givesFor_of_missing (isMeaning : meaning ∈ meanings)
    (fills : FillsMembers shape meanings members draft last) (missing : meaning.part draft = none) :
    GivesFor meaning.name meaning.means members (meaning.part last) := by
  induction fills with
  | nil draft =>
      rw [missing]
      exact .none (List.forall_mem_nil _)
  | unknown denotes unknown _ inductionHypothesis =>
      exact (inductionHypothesis missing).cons (fit.not_denotes isMeaning denotes unknown)
  | @field written other tree others field draft next last denotes known _ value further
      inductionHypothesis =>
      by_cases same : other = meaning.name
      · subst same
        have field_name : field.name = meaning.name := by simpa using List.find?_some known
        rcases fit.part_of_gives isMeaning (field_name ▸ value) with ⟨content, meant, given⟩
        rcases part_of_given fit isMeaning further (by simp [given]) with ⟨kept, absent⟩
        rw [kept, given]
        refine .some List.mem_cons_self denotes meant ?_
        exact List.forall_mem_cons.mpr
          ⟨fun _ => rfl, fun member isMember called => absurd called (absent member isMember)⟩
      · have kept := fit.kept isMeaning known same value
        exact (inductionHypothesis (kept.trans missing)).cons
          fun called => same (denotes.string_unique called)

/-- What is kept of a field in the end is what the members give for its name. -/
theorem givesFor_of_fillsMembers (fills : FillsMembers shape meanings members shape.blank last)
    (isMeaning : meaning ∈ meanings) :
    GivesFor meaning.name meaning.means members (meaning.part last) :=
  givesFor_of_missing fit isMeaning fills (fit.blank _ isMeaning)

end Records

end Lindenmayer.Json
