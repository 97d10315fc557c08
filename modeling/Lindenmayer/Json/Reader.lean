import Lindenmayer.Json.Error

/-!
# Reading JSON in one pass

A reader takes characters off the front of a text, and the first thing found
wrong ends the reading. So what is reported is decided by the order in which the
text is written, whether the text breaks the rules of JSON or merely holds
something that was not asked for.

A failure remembers what was left of the text, from which its place can be
computed. A mismatch that concerns a whole list or object is placed at the end
of the innermost one around it, once reading has tried to leave that.
-/

namespace Lindenmayer.Json

/-- A reason to stop reading. -/
structure Failure where
  reason : Reason
  rest : List Char
  /-- Number of bytes that the place of the failure lies past that. -/
  ahead : Nat
  /-- Whether the place is final; otherwise the list or object around it decides. -/
  settled : Bool

namespace Failure

/-- Makes the place final, after moving it on if it was not final before. -/
def settle (failure : Failure) (move : List Char → List Char) : Failure :=
  if failure.settled then failure
  else { failure with rest := move failure.rest, settled := true }

def toError (failure : Failure) (text : List Char) : Error where
  reason := failure.reason
  position? :=
    if failure.settled then
      let taken := text.take (text.length - failure.rest.length)
      some ((Position.start.afterChars taken).afterBytes failure.ahead failure.rest)
    else none

end Failure

/-- Takes something off the front of a text. -/
abbrev Reader := StateT (List Char) (Except Failure)

namespace Reader

variable {α : Type}

/-! ## Failing -/

def failPast (ahead : Nat) (reason : Reason) : Reader α :=
  fun rest => .error { reason, rest, ahead, settled := true }

def failHere (reason : Reason) : Reader α := failPast 0 reason

def failNext (reason : Reason) : Reader α := failPast 1 reason

/-- Fails just after what has been read, because of a value that has been read. -/
def misfit (how : Mismatch) : Reader α := failHere (.mismatch how)

/-- Fails because of the list or object that is being read. -/
def misfitAround (how : Mismatch) : Reader α :=
  fun rest => .error { reason := .mismatch how, rest, ahead := 0, settled := false }

/-! ## Characters -/

def isBlank (char : Char) : Bool :=
  char = ' ' || char = '\t' || char = '\n' || char = '\r'

def dropBlanks (rest : List Char) : List Char := rest.dropWhile isBlank

def skipBlanks : Reader Unit := modify dropBlanks

def peek? : Reader (Option Char) := do return (← get).head?

def skip : Reader Unit := modify (List.drop 1)

/-- Takes blanks off and looks at the first character of the value that must follow. -/
def peekValue : Reader Char := do
  skipBlanks
  match ← peek? with
  | some char => return char
  | none => failNext (.endOfText .value)

/-- Takes off the remaining characters of a literal. -/
def literal : (expected : List Char) → Reader Unit
  | [] => return ()
  | char :: expected => do
    match ← peek? with
    | none => failHere (.endOfText .value)
    | some next =>
      if next = char then do
        skip
        literal expected
      else
        failNext (.malformed .expectedLiteral)

/-! ## Strings -/

def hexDigit? (char : Char) : Option Nat :=
  if '0' ≤ char ∧ char ≤ '9' then some (char.toNat - '0'.toNat)
  else if 'a' ≤ char ∧ char ≤ 'f' then some (char.toNat - 'a'.toNat + 10)
  else if 'A' ≤ char ∧ char ≤ 'F' then some (char.toNat - 'A'.toNat + 10)
  else none

def hexNumber? (digits : List Char) : Option Nat :=
  digits.foldlM (fun value char => (hexDigit? char).map (16 * value + ·)) 0

def isShort (bytes : Nat) (rest : List Char) : Bool :=
  (String.ofList (rest.take bytes)).utf8ByteSize < bytes

def fourHexDigits : Reader Nat := do
  let rest ← get
  if isShort 4 rest then
    set ([] : List Char)
    failHere (.endOfText .string)
  else
    match hexNumber? (rest.take 4) with
    | some value => do
      set (rest.drop 4)
      return value
    | none => failPast 4 (.malformed .invalidEscape)

def isLeadSurrogate (unit : Nat) : Bool := 0xD800 ≤ unit && unit ≤ 0xDBFF

def isTrailSurrogate (unit : Nat) : Bool := 0xDC00 ≤ unit && unit ≤ 0xDFFF

def pairCharacter (expected : Char) : Reader Unit := do
  match ← peek? with
  | none => failHere (.endOfText .string)
  | some next =>
    if next = expected then skip else failNext (.malformed .unfinishedSurrogatePair)

/-- Takes off the digits of a numeric escape, and the second half of a surrogate pair. -/
def numericEscape : Reader Char := do
  let unit ← fourHexDigits
  if isTrailSurrogate unit then
    failHere (.malformed .loneSurrogate)
  else if isLeadSurrogate unit then
    pairCharacter '\\'
    pairCharacter 'u'
    let trail ← fourHexDigits
    if isTrailSurrogate trail then
      return Char.ofNat (0x10000 + (unit - 0xD800) * 0x400 + (trail - 0xDC00))
    else
      failHere (.malformed .loneSurrogate)
  else
    return Char.ofNat unit

def shortEscape? : Char → Option Char
  | '"' => some '"'
  | '\\' => some '\\'
  | '/' => some '/'
  | 'b' => some '\x08'
  | 'f' => some '\x0c'
  | 'n' => some '\n'
  | 'r' => some '\r'
  | 't' => some '\t'
  | _ => none

/-- Takes off what follows a backslash, leaving numeric escapes to a given reader. -/
def escape (numeric : Reader Char) : Reader Char := do
  match ← peek? with
  | none => failHere (.endOfText .string)
  | some 'u' => do
    skip
    numeric
  | some letter =>
    match shortEscape? letter with
    | some char => do
      skip
      return char
    | none => failNext (.malformed .invalidEscape)

def isControl (char : Char) : Bool := char.toNat < 0x20

/-- Takes off one character of a string, or the quote that ends it. -/
def stringItem : Reader (Option Char) := do
  match ← peek? with
  | none => failHere (.endOfText .string)
  | some '"' => do
    skip
    return none
  | some '\\' => do
    skip
    return some (← escape numericEscape)
  | some char =>
    if isControl char then failNext (.malformed .controlCharacterInString)
    else do
      skip
      return some char

/-- Takes off the characters of a string up to the closing quote. -/
def stringChars : (fuel : Nat) → Reader (List Char)
  | 0 => failHere (.endOfText .string)
  | fuel + 1 => do
    match ← stringItem with
    | none => return []
    | some char => return char :: (← stringChars fuel)

def stringBody : Reader String := do
  let chars ← stringChars ((← get).length + 1)
  return String.ofList chars

/-! ## Numbers -/

/-- The digits at the front are taken into a number for as long as it stays within a limit. -/
def absorb (limit : Nat) : (value : Nat) → List Char → Nat × Nat × List Char
  | value, [] => (value, 0, [])
  | value, char :: rest =>
    let grown := 10 * value + (char.toNat - '0'.toNat)
    if char.isDigit ∧ grown ≤ limit then
      let (value, count, rest) := absorb limit grown rest
      (value, count + 1, rest)
    else
      (value, 0, char :: rest)

def absorbDigits (limit value : Nat) : Reader (Nat × Nat) := do
  let (value, count, rest) := absorb limit value (← get)
  set rest
  return (value, count)

def skipDigits : Reader Nat := do
  let rest ← get
  set (rest.dropWhile Char.isDigit)
  return (rest.takeWhile Char.isDigit).length

def atDigit : Reader Bool := do
  return (← peek?).any Char.isDigit

def atExponent : Reader Bool := do
  return (← peek?).any fun char => char = 'e' || char = 'E'

/-- Takes off a character if it comes next, and tells whether it did. -/
def skipIf (char : Char) : Reader Bool := do
  if (← peek?) = some char then
    skip
    return true
  else
    return false

def floatOfParts (isNegative : Bool) (significand : Nat) (exponent : Int) : Reader Number :=
  match Number.ofParts? isNegative significand exponent with
  | some number => return number
  | none => failHere (.malformed .numberOutOfRange)

/-- Takes off the sign of an exponent, and tells whether it is a minus. -/
def exponentSign : Reader Bool := do
  let isReduced ← skipIf '-'
  unless isReduced do
    let _ ← skipIf '+'
  return isReduced

def exponentDigits (isNegative : Bool) (significand : Nat) (exponent : Int) (isReduced : Bool) :
    Reader Number := do
  if (← peek?).isNone then
    failHere (.endOfText .value)
  else if !(← atDigit) then
    failNext (.malformed .invalidNumber)
  else
    let (change, _) ← absorbDigits Number.greatestExponent 0
    if ← atDigit then
      if significand ≠ 0 ∧ !isReduced then
        failNext (.malformed .numberOutOfRange)
      else
        let _ ← skipDigits
        return .float (if isNegative then -0.0 else 0.0)
    else
      floatOfParts isNegative significand (if isReduced then exponent - change else exponent + change)

/-- Takes off an exponent and completes the number. -/
def exponentPart (isNegative : Bool) (significand : Nat) (exponent : Int) : Reader Number := do
  skip
  let isReduced ← exponentSign
  exponentDigits isNegative significand exponent isReduced

def numberEnd (isNegative : Bool) (significand : Nat) (exponent : Int) : Reader Number := do
  if ← atExponent then exponentPart isNegative significand exponent
  else floatOfParts isNegative significand exponent

def fractionPart (isNegative : Bool) (significand : Nat) (exponent : Int) : Reader Number := do
  skip
  let (significand, count) ← absorbDigits Number.greatestSignificand significand
  if ← atDigit then
    let _ ← skipDigits
    numberEnd isNegative significand (exponent - count)
  else if count = 0 then
    if (← peek?).isNone then failNext (.endOfText .value)
    else failNext (.malformed .invalidNumber)
  else
    numberEnd isNegative significand (exponent - count)

/-- Completes a number whose whole part has been taken off, less some dropped digits. -/
def numberTail (isNegative : Bool) (significand dropped : Nat) : Reader Number := do
  if (← peek?) = some '.' then
    fractionPart isNegative significand dropped
  else if (← atExponent) || dropped ≠ 0 then
    numberEnd isNegative significand dropped
  else
    return .ofInteger isNegative significand

/-- Takes off a number after its sign. -/
def magnitude (isNegative : Bool) : Reader Number := do
  if (← peek?).isNone then
    failHere (.endOfText .value)
  else if ← skipIf '0' then
    if ← atDigit then failNext (.malformed .invalidNumber)
    else numberTail isNegative 0 0
  else if ← atDigit then
    let (significand, _) ← absorbDigits Number.greatestSignificand 0
    let dropped ← skipDigits
    numberTail isNegative significand dropped
  else
    failNext (.malformed .invalidNumber)

def number : Reader Number := do
  let isNegative ← skipIf '-'
  magnitude isNegative

def beginsNumber (char : Char) : Bool := char = '-' || char.isDigit

/-! ## Lists and objects -/

/-- How many lists and objects may be nested in one another. -/
def deepestNesting : Nat := 127

def nested (levels : Nat) (body : (levels : Nat) → Reader α) : Reader α :=
  match levels with
  | 0 => failNext (.malformed .nestedTooDeeply)
  | levels + 1 => body levels

/-- Tells whether a list goes on, taking off what comes before its next element. -/
def nextElement (isFirst : Bool) : Reader Bool := do
  skipBlanks
  match ← peek? with
  | none => failNext (.endOfText .list)
  | some ']' => return false
  | some char =>
    if isFirst then
      return true
    else if char = ',' then
      skip
      skipBlanks
      match ← peek? with
      | none => failNext (.endOfText .value)
      | some ']' => failNext (.malformed .trailingComma)
      | some _ => return true
    else
      failNext (.malformed .expectedListCommaOrEnd)

/-- Takes off the next key of an object, if there is one. -/
def nextKey? (isFirst : Bool) : Reader (Option String) := do
  skipBlanks
  match ← peek? with
  | none => failNext (.endOfText .object)
  | some '\x7d' => return none
  | some char =>
    if isFirst then
      key char
    else if char = ',' then
      skip
      skipBlanks
      match ← peek? with
      | none => failNext (.endOfText .value)
      | some '\x7d' => failNext (.malformed .trailingComma)
      | some char => key char
    else
      failNext (.malformed .expectedObjectCommaOrEnd)
where
  key (char : Char) : Reader (Option String) := do
    if char = '"' then
      skip
      return some (← stringBody)
    else
      failNext (.malformed .keyMustBeString)

def colon : Reader Unit := do
  skipBlanks
  match ← peek? with
  | none => failNext (.endOfText .object)
  | some ':' => skip
  | some _ => failNext (.malformed .expectedColon)

def listEnd : Reader Unit := do
  skipBlanks
  match ← peek? with
  | none => failNext (.endOfText .list)
  | some ']' => skip
  | some ',' => do
    skip
    skipBlanks
    if (← peek?) = some ']' then failNext (.malformed .trailingComma)
    else failNext (.malformed .trailingCharacters)
  | some _ => failNext (.malformed .trailingCharacters)

/-- How far an attempt to take off the end of a list goes. -/
def afterListEnd (rest : List Char) : List Char :=
  match dropBlanks rest with
  | ']' :: rest => rest
  | ',' :: rest => dropBlanks rest
  | rest => rest

def objectEnd : Reader Unit := do
  skipBlanks
  match ← peek? with
  | none => failNext (.endOfText .object)
  | some '\x7d' => skip
  | some ',' => failNext (.malformed .trailingComma)
  | some _ => failNext (.malformed .trailingCharacters)

/-- How far an attempt to take off the end of an object goes. -/
def afterObjectEnd (rest : List Char) : List Char :=
  match dropBlanks rest with
  | '\x7d' :: rest => rest
  | rest => rest

/-- Places the failures of a reader that concern a list or object as a whole. -/
def placing (move : List Char → List Char) (body : Reader α) : Reader α :=
  fun rest => (body rest).mapError (·.settle move)

/-- Takes off a list, of which the opening bracket comes next. -/
def inList (levels : Nat) (body : (levels : Nat) → Reader α) : Reader α :=
  nested levels fun levels => do
    skip
    let value ← placing afterListEnd (body levels)
    listEnd
    return value

def inObject (levels : Nat) (body : (levels : Nat) → Reader α) : Reader α :=
  nested levels fun levels => do
    skip
    let value ← placing afterObjectEnd (body levels)
    objectEnd
    return value

def elements (item : Reader α) : (fuel : Nat) → (isFirst : Bool) → Reader (List α)
  | 0, _ => return []
  | fuel + 1, isFirst => do
    if ← nextElement isFirst then
      let value ← item
      return value :: (← elements item fuel false)
    else
      return []

def members (item : Reader α) : (fuel : Nat) → (isFirst : Bool) → Reader (List (String × α))
  | 0, _ => return []
  | fuel + 1, isFirst => do
    match ← nextKey? isFirst with
    | none => return []
    | some key =>
      colon
      let value ← item
      return (key, value) :: (← members item fuel false)

/-- A bound on the number of elements or members that are left. -/
def bound : Reader Nat := do return (← get).length + 1

/-! ## Whole texts -/

/-- Reads a text of which nothing but blanks may be left. -/
def run (reader : Reader α) (text : String) : Except Error α :=
  let whole : Reader α := do
    let value ← reader
    skipBlanks
    match ← peek? with
    | none => return value
    | some _ => failNext (.malformed .trailingCharacters)
  match whole text.toList with
  | .ok (value, _) => .ok value
  | .error failure => .error (failure.toError text.toList)

end Reader

end Lindenmayer.Json
