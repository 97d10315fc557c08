import Lindenmayer.Json.Skipping
import Lindenmayer.Json.Value
import Lindenmayer.KeyedTable

/-!
# Reading values of a known type

Readers for texts, numbers, optional values, tables, records and named forms. A
value of another type is reported together with what was expected; scalars are
read to their end for that, lists and objects are not entered.

A record may be written as an object, whose members may come in any order and
among others that are passed over, or as the list of its fields. Fields that are
not required may be left out, in a list only after all others.
-/

namespace Lindenmayer.Json

namespace Reader

variable {α : Type}

/-! ## Scalars -/

/-- Looks at a value of any type to tell what it is. -/
def found : Reader Found := do
  match ← peekValue with
  | 'n' => do
    skip
    literal ['u', 'l', 'l']
    return .null
  | 't' => do
    skip
    literal ['r', 'u', 'e']
    return .boolean true
  | 'f' => do
    skip
    literal ['a', 'l', 's', 'e']
    return .boolean false
  | '"' => do
    skip
    return .string (← stringBody)
  | '[' => return .list
  | '\x7b' => return .object
  | char =>
    if beginsNumber char then do return .number (← number)
    else failNext (.malformed .expectedValue)

def wrongType (expected : String) : Reader α := do
  misfit (.wrongType (← found) expected)

def text : Reader String := do
  match ← peekValue with
  | '"' => do
    skip
    stringBody
  | _ => wrongType "a string"

/-- Takes off a floating-point number, which may be written as an integer. -/
def float : Reader Float := do
  if beginsNumber (← peekValue) then do return (← number).toFloat
  else wrongType "f64"

def unsigned : Reader UInt64 := do
  if beginsNumber (← peekValue) then
    match ← number with
    | .unsigned value => return value
    | .negative magnitude => misfit (.wrongValue (.number (.negative magnitude)) "u64")
    | .float value => misfit (.wrongType (.number (.float value)) "u64")
  else
    wrongType "u64"

def optional (item : Reader α) : Reader (Option α) := do
  skipBlanks
  if (← peek?) = some 'n' then
    skip
    literal ['u', 'l', 'l']
    return none
  else
    return some (← item)

/-- Takes off `null` where nothing else can be said. -/
def unit : Reader Unit := do
  match ← peekValue with
  | 'n' => do
    skip
    literal ['u', 'l', 'l']
  | _ => wrongType "unit"

/-! ## Lists of fixed length and tables -/

/-- Takes off an element that must be there, after a number of others. -/
def required (index : Nat) (expected : String) (item : Reader α) : Reader α := do
  if ← nextElement (index = 0) then item
  else misfitAround (.wrongLength index expected)

def listOf (levels : Nat) (expected : String) (body : (levels : Nat) → Reader α) :
    Reader α := do
  match ← peekValue with
  | '[' => inList levels body
  | _ => wrongType expected

/-- Takes off an object as a table, the last of several values under one key prevailing. -/
def table (levels : Nat) (item : (levels : Nat) → Reader α) : Reader (KeyedTable α) := do
  match ← peekValue with
  | '\x7b' =>
    inObject levels fun levels => do
      return .ofList (← members (item levels) (← bound) true)
  | _ => wrongType "a map"

end Reader

/-! ## Records -/

/-- A field of a record, read into a draft of the record. -/
structure RecordField (Draft : Type) where
  name : String
  required : Bool
  given : Draft → Bool
  read : (levels : Nat) → Draft → Reader Draft

structure RecordShape (Draft α : Type) where
  name : String
  fields : List (RecordField Draft)
  blank : Draft
  /-- Completes a draft, or names the first required field that it lacks. -/
  complete : Draft → Except String α

namespace RecordShape

variable {Draft α : Type}

def title (shape : RecordShape Draft α) : String := "struct " ++ shape.name

def listTitle (shape : RecordShape Draft α) : String :=
  shape.title ++ " with " ++ toString shape.fields.length ++ " elements"

/-- Completes a draft, failing if a required field is lacking. -/
def completion (shape : RecordShape Draft α) (draft : Draft) : Reader α :=
  match shape.complete draft with
  | .ok value => return value
  | .error name => Reader.misfitAround (.missingField name)

def elements (shape : RecordShape Draft α) (levels : Nat) :
    List (RecordField Draft) → (index : Nat) → Draft → Reader Draft
  | [], _, draft => return draft
  | field :: rest, index, draft => do
    if ← Reader.nextElement (index = 0) then
      shape.elements levels rest (index + 1) (← field.read levels draft)
    else if field.required then
      Reader.misfitAround (.wrongLength index shape.listTitle)
    else
      shape.elements levels rest (index + 1) draft

def members (shape : RecordShape Draft α) (levels : Nat) :
    (fuel : Nat) → (isFirst : Bool) → Draft → Reader Draft
  | 0, _, draft => return draft
  | fuel + 1, isFirst, draft => do
    match ← Reader.nextKey? isFirst with
    | none => return draft
    | some key =>
      match shape.fields.find? (·.name = key) with
      | none =>
        Reader.colon
        Reader.passValue
        shape.members levels fuel false draft
      | some field =>
        if field.given draft then
          Reader.misfitAround (.duplicateField key)
        else
          Reader.colon
          shape.members levels fuel false (← field.read levels draft)

def read (shape : RecordShape Draft α) (levels : Nat) : Reader α := do
  match ← Reader.peekValue with
  | '[' =>
    Reader.inList levels fun levels => do
      shape.completion (← shape.elements levels shape.fields 0 shape.blank)
  | '\x7b' =>
    Reader.inObject levels fun levels => do
      shape.completion (← shape.members levels (← Reader.bound) true shape.blank)
  | _ => Reader.wrongType shape.title

def ofPair {β γ : Type} (name : String) (first : String × ((levels : Nat) → Reader β))
    (second : String × ((levels : Nat) → Reader γ)) (build : β → γ → α) :
    RecordShape (Option β × Option γ) α where
  name := name
  fields := [
    { name := first.1
      required := true
      given := fun draft => draft.1.isSome
      read := fun levels draft => do return (some (← first.2 levels), draft.2) },
    { name := second.1
      required := true
      given := fun draft => draft.2.isSome
      read := fun levels draft => do return (draft.1, some (← second.2 levels)) }]
  blank := (none, none)
  complete
    | (some left, some right) => .ok (build left right)
    | (none, _) => .error first.1
    | (_, none) => .error second.1

end RecordShape

/-! ## Named forms -/

/-- One of several named forms that a value may have. -/
inductive Form (α : Type) where
  | bare (value : α)
  | loaded (read : (levels : Nat) → Reader α)

namespace Form

variable {α : Type}

/-- Takes off the name of a form, of which the opening quote comes next. -/
def readName (forms : List (String × Form α)) : Reader (Form α) := do
  Reader.skip
  let name ← Reader.stringBody
  match forms.lookup name with
  | some form => return form
  | none => Reader.misfit (.unknownForm name (forms.map Prod.fst))

def readContents (levels : Nat) : Form α → Reader α
  | bare value => do
    Reader.unit
    return value
  | loaded read => read levels

/-- Takes off the key of an object that is a form with its contents. -/
def readKey (forms : List (String × Form α)) : Reader (Form α) := do
  match ← Reader.peekValue with
  | '"' => readName forms
  | _ => Reader.failNext (.malformed .keyMustBeString)

/-- Takes off a value in one of several forms: a name, or an object with a name as its only key. -/
def read (forms : List (String × Form α)) (levels : Nat) : Reader α := do
  match ← Reader.peekValue with
  | '"' =>
    match ← readName forms with
    | bare value => return value
    | loaded _ => Reader.misfitAround (.wrongType .bareForm "newtype variant")
  | '\x7b' =>
    Reader.nested levels fun levels => do
      Reader.skip
      let form ← readKey forms
      Reader.colon
      let value ← form.readContents levels
      Reader.skipBlanks
      match ← Reader.peek? with
      | none => Reader.failHere (.endOfText .object)
      | some '\x7d' => do
        Reader.skip
        return value
      | some _ => Reader.failHere (.malformed .expectedValue)
  | _ => Reader.failNext (.malformed .expectedValue)

end Form

end Lindenmayer.Json
