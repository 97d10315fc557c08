import Mathlib.Data.List.Forall2
import Lindenmayer.Json.Tree
import Lindenmayer.Json.Typed

/-!
# What trees mean

What a tree means depends on the type that is asked for. Each meaning is a relation between
trees and values, given without any reader and for the tree as a whole, so that neither blanks
nor the rest of the text come up. The number that a numeral stands for is left to the
conversion of numerals.
-/

namespace Lindenmayer.Json

variable {α : Type}

/-! ## Values of any kind -/

inductive Means : Tree → Value → Prop
  | null : Means .null .null
  | boolean (value : Bool) : Means (.boolean value) (.boolean value)
  | number {numeral : List Char} {number : Number}
      (read : Reader.number numeral = .ok (number, [])) : Means (.number numeral) (.number number)
  | string {written : List Char} {text : String} (denotes : Denotes written text.toList) :
      Means (.string written) (.string text)
  | list {trees : List Tree} {values : List Value} (elements : List.Forall₂ Means trees values) :
      Means (.list trees) (.list values)
  | object {members : List (List Char × Tree)} {values : List (String × Value)}
      (keys : List.Forall₂ Denotes (members.map (·.1)) (values.map (·.1.toList)))
      (contents : List.Forall₂ Means (members.map (·.2)) (values.map (·.2))) :
      Means (.object members) (.object values)

/-! ## Values of a known type -/

def MeansText (tree : Tree) (text : String) : Prop :=
  ∃ written, tree = .string written ∧ Denotes written text.toList

def MeansFloat (tree : Tree) (value : Float) : Prop :=
  ∃ numeral number, tree = .number numeral ∧ Reader.number numeral = .ok (number, []) ∧
    value = number.toFloat

def MeansUnsigned (tree : Tree) (value : UInt64) : Prop :=
  ∃ numeral, tree = .number numeral ∧ Reader.number numeral = .ok (.unsigned value, [])

inductive MeansOptional (means : Tree → α → Prop) : Tree → Option α → Prop
  | none : MeansOptional means .null none
  | some {tree : Tree} {value : α} (notNull : tree ≠ .null) (item : means tree value) :
      MeansOptional means tree (some value)

/-- Entries are members with keys that denote texts, and with values that mean something. -/
def MeansEntries (means : Tree → α → Prop) :
    List (List Char × Tree) → List (String × α) → Prop :=
  List.Forall₂ fun member entry => Denotes member.1 entry.1.toList ∧ means member.2 entry.2

def MeansTable (means : Tree → α → Prop) (tree : Tree) (table : KeyedTable α) : Prop :=
  ∃ members entries, tree = .object members ∧ MeansEntries means members entries ∧
    table = .ofList entries

/-! ## Records -/

/-- What a field of a record means, and the part of a draft in which this is kept. -/
structure FieldMeaning (Draft : Type) where
  name : String
  Content : Type
  means : Tree → Content → Prop
  part : Draft → Option Content
  put : Content → Draft → Draft

/-- What a value makes of a draft of a record as the value of a field. -/
inductive GivesField {Draft : Type} (meanings : List (FieldMeaning Draft)) (name : String)
    (tree : Tree) (draft : Draft) : Draft → Prop
  | intro {meaning : FieldMeaning Draft} (isMeaning : meaning ∈ meanings)
      (called : meaning.name = name) {content : meaning.Content}
      (meant : meaning.means tree content) :
      GivesField meanings name tree draft (meaning.put content draft)

section Records

variable {Draft : Type} (shape : RecordShape Draft α) (meanings : List (FieldMeaning Draft))

/--
Whether members in their order make one draft of a record into another. A field is given once
at most, and members that are not called like any field are of no account.
-/
inductive FillsMembers : List (List Char × Tree) → Draft → Draft → Prop
  | nil (draft : Draft) : FillsMembers [] draft draft
  | unknown {written : List Char} {name : String} {tree : Tree}
      {others : List (List Char × Tree)} {draft last : Draft}
      (denotes : Denotes written name.toList)
      (unknown : shape.fields.find? (·.name = name) = none)
      (further : FillsMembers others draft last) :
      FillsMembers ((written, tree) :: others) draft last
  | field {written : List Char} {name : String} {tree : Tree} {others : List (List Char × Tree)}
      {field : RecordField Draft} {draft next last : Draft}
      (denotes : Denotes written name.toList)
      (known : shape.fields.find? (·.name = name) = some field)
      (fresh : field.given draft = false) (value : GivesField meanings field.name tree draft next)
      (further : FillsMembers others next last) :
      FillsMembers ((written, tree) :: others) draft last

/-- Whether elements make one draft into another, as values of the given fields in their order. -/
inductive FillsElements : List (RecordField Draft) → List Tree → Draft → Draft → Prop
  | nil (draft : Draft) : FillsElements [] [] draft draft
  | absent {field : RecordField Draft} {fields : List (RecordField Draft)} {draft last : Draft}
      (optional : field.required = false) (further : FillsElements fields [] draft last) :
      FillsElements (field :: fields) [] draft last
  | field {field : RecordField Draft} {fields : List (RecordField Draft)} {tree : Tree}
      {trees : List Tree} {draft next last : Draft}
      (value : GivesField meanings field.name tree draft next)
      (further : FillsElements fields trees next last) :
      FillsElements (field :: fields) (tree :: trees) draft last

inductive MeansRecord : Tree → α → Prop
  | object {members : List (List Char × Tree)} {draft : Draft} {value : α}
      (fills : FillsMembers shape meanings members shape.blank draft)
      (complete : shape.complete draft = .ok value) : MeansRecord (.object members) value
  | list {trees : List Tree} {draft : Draft} {value : α}
      (fills : FillsElements meanings shape.fields trees shape.blank draft)
      (complete : shape.complete draft = .ok value) : MeansRecord (.list trees) value

end Records

end Lindenmayer.Json
