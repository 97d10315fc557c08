import Lindenmayer.Json.Number
import Lindenmayer.Text.Quoted

/-!
# What can be wrong with a JSON text

A text may end too early, may be malformed, or may be well-formed and hold
something other than what was asked for. Faults are causes; their wording and
their places in the text are computed from them here.
-/

namespace Lindenmayer.Json

/-- The innermost thing a text ended in. -/
inductive Unfinished where
  | list
  | object
  | string
  | value
deriving DecidableEq, Repr

/-- How a text breaks the rules of JSON. -/
inductive Malformation where
  | expectedColon
  | expectedListCommaOrEnd
  | expectedObjectCommaOrEnd
  | expectedLiteral
  | expectedValue
  | invalidEscape
  | invalidNumber
  | numberOutOfRange
  | controlCharacterInString
  | keyMustBeString
  | loneSurrogate
  | trailingComma
  | trailingCharacters
  | unfinishedSurrogatePair
  | nestedTooDeeply
deriving DecidableEq, Repr

inductive Found where
  | null
  | boolean (value : Bool)
  | number (value : Number)
  | string (value : String)
  | list
  | object
  /-- The name of a form without contents. -/
  | bareForm

/-- How a well-formed text differs from what was asked for. -/
inductive Mismatch where
  | wrongType (found : Found) (expected : String)
  | wrongValue (found : Found) (expected : String)
  | wrongLength (length : Nat) (expected : String)
  | missingField (name : String)
  | duplicateField (name : String)
  | unknownForm (name : String) (known : List String)
  /-- None of several alternative forms fits. -/
  | noFormFits (type : String)

inductive Reason where
  | endOfText (inside : Unfinished)
  | malformed (how : Malformation)
  | mismatch (how : Mismatch)

inductive Category where
  | endOfText
  | malformed
  | mismatch
deriving DecidableEq, Repr

def Reason.category : Reason → Category
  | endOfText _ => .endOfText
  | malformed _ => .malformed
  | mismatch _ => .mismatch

/-! ## Wording -/

def Unfinished.text : Unfinished → String
  | list => "a list"
  | object => "an object"
  | string => "a string"
  | value => "a value"

def Malformation.text : Malformation → String
  | expectedColon => "expected `:`"
  | expectedListCommaOrEnd => "expected `,` or `]`"
  | expectedObjectCommaOrEnd => "expected `,` or `\x7d`"
  | expectedLiteral => "expected ident"
  | expectedValue => "expected value"
  | invalidEscape => "invalid escape"
  | invalidNumber => "invalid number"
  | numberOutOfRange => "number out of range"
  | controlCharacterInString =>
    "control character (\\u0000-\\u001F) found while parsing a string"
  | keyMustBeString => "key must be a string"
  | loneSurrogate => "lone leading surrogate in hex escape"
  | trailingComma => "trailing comma"
  | trailingCharacters => "trailing characters"
  | unfinishedSurrogatePair => "unexpected end of hex escape"
  | nestedTooDeeply => "recursion limit exceeded"

def Number.description : Number → String
  | .float value => "floating point `" ++ String.ofList ((Number.floatChars? value).getD []) ++ "`"
  | whole => "integer `" ++ String.ofList whole.chars ++ "`"

def Found.text : Found → String
  | null => "null"
  | boolean value => "boolean `" ++ toString value ++ "`"
  | number value => value.description
  | string value => "string " ++ Text.quoted value
  | list => "sequence"
  | object => "map"
  | bareForm => "unit variant"

def backquoted (name : String) : String := "`" ++ name ++ "`"

def Mismatch.text : Mismatch → String
  | wrongType found expected => "invalid type: " ++ found.text ++ ", expected " ++ expected
  | wrongValue found expected => "invalid value: " ++ found.text ++ ", expected " ++ expected
  | wrongLength length expected =>
    "invalid length " ++ toString length ++ ", expected " ++ expected
  | missingField name => "missing field " ++ backquoted name
  | duplicateField name => "duplicate field " ++ backquoted name
  | unknownForm name known =>
    "unknown variant " ++ backquoted name ++ ", expected one of " ++
      String.intercalate ", " (known.map backquoted)
  | noFormFits type => "data did not match any variant of untagged enum " ++ type

def Reason.text : Reason → String
  | endOfText inside => "EOF while parsing " ++ inside.text
  | malformed how => how.text
  | mismatch how => how.text

/-! ## Places -/

structure Position where
  /-- Number of the line, counted from one. -/
  line : Nat
  /-- Number of bytes before the place on its line. -/
  column : Nat
deriving DecidableEq, Repr

namespace Position

def start : Position := ⟨1, 0⟩

def after (position : Position) (char : Char) : Position :=
  if char = '\n' then ⟨position.line + 1, 0⟩
  else ⟨position.line, position.column + char.utf8Size⟩

def afterChars (position : Position) (chars : List Char) : Position :=
  chars.foldl after position

/-- The place some bytes on, or the end of the text if that comes first. -/
def afterBytes (position : Position) : (count : Nat) → List Char → Position
  | _, [] => position
  | count, char :: rest =>
    if count < char.utf8Size then ⟨position.line, position.column + count⟩
    else (position.after char).afterBytes (count - char.utf8Size) rest

end Position

/-- Why a text was refused, and where. -/
structure Error where
  reason : Reason
  /-- The place, unless the reason concerns the text as a whole. -/
  position? : Option Position

def Error.message (error : Error) : String :=
  match error.position? with
  | none => error.reason.text
  | some position =>
    error.reason.text ++ " at line " ++ toString position.line ++
      " column " ++ toString position.column

end Lindenmayer.Json
