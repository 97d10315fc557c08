import Lindenmayer.Json.Reader

/-!
# Passing over values

A value that nobody asked for is passed over without being built. It must be
well-formed, but numbers may be of any size, numeric escapes need not pair up,
and nesting may be as deep as the text allows: what is open is kept on a stack.
-/

namespace Lindenmayer.Json.Reader

/-! ## Strings and numbers -/

/-- Passes over one character of a string; tells whether the string goes on. -/
def passStringItem : Reader Bool := do
  match ← peek? with
  | none => failHere (.endOfText .string)
  | some '"' => do
    skip
    return false
  | some '\\' => do
    skip
    let _ ← escape (do let _ ← fourHexDigits; return ' ')
    return true
  | some char =>
    if isControl char then failHere (.malformed .controlCharacterInString)
    else do
      skip
      return true

def passStringChars : (fuel : Nat) → Reader Unit
  | 0 => failHere (.endOfText .string)
  | fuel + 1 => do
    if ← passStringItem then passStringChars fuel

def passString : Reader Unit := do
  passStringChars (← bound)

def passExponent : Reader Unit := do
  skip
  let _ ← exponentSign
  if ← atDigit then
    let _ ← skipDigits
  else
    failNext (.malformed .invalidNumber)

def passFraction : Reader Unit := do
  skip
  if (← skipDigits) = 0 then
    failNext (.malformed .invalidNumber)
  else if ← atExponent then
    passExponent

/-- Passes over a number after its sign. -/
def passMagnitude : Reader Unit := do
  if ← skipIf '0' then
    if ← atDigit then failNext (.malformed .invalidNumber)
  else if (← skipDigits) = 0 then
    failNext (.malformed .invalidNumber)
  if (← peek?) = some '.' then passFraction
  else if ← atExponent then passExponent

def passNumber : Reader Unit := do
  let _ ← skipIf '-'
  passMagnitude

/-! ## Lists and objects -/

inductive Frame where
  | list
  | object
deriving DecidableEq, Repr

namespace Frame

def closer : Frame → Char
  | list => ']'
  | object => '\x7d'

def unfinished : Frame → Reason
  | list => .endOfText .list
  | object => .endOfText .object

def expectedCommaOrEnd : Frame → Reason
  | list => .malformed .expectedListCommaOrEnd
  | object => .malformed .expectedObjectCommaOrEnd

end Frame

inductive Expecting where
  | value
  /-- An element or member, or the end of what has just been opened. -/
  | firstEntry
  /-- A comma or the end of what is open. -/
  | nextEntry
deriving DecidableEq, Repr

/-- Passes over the key of a member, if the innermost frame is an object. -/
def passKey (frame : Frame) : Reader Unit :=
  match frame with
  | .list => return ()
  | .object => do
    skipBlanks
    match ← peek? with
    | none => failNext (.endOfText .object)
    | some '"' => do
      skip
      passString
      colon
    | some _ => failNext (.malformed .keyMustBeString)

def passScalar (first : Char) : Reader Unit := do
  match first with
  | 'n' => do
    skip
    literal ['u', 'l', 'l']
  | 't' => do
    skip
    literal ['r', 'u', 'e']
  | 'f' => do
    skip
    literal ['a', 'l', 's', 'e']
  | '"' => do
    skip
    passString
  | char =>
    if beginsNumber char then passNumber
    else failNext (.malformed .expectedValue)

/-- Passes over what is expected and then over the rest of all that is open. -/
def passOpen : (fuel : Nat) → Expecting → List Frame → Reader Unit
  | 0, _, _ => return ()
  | fuel + 1, .value, frames => do
    match ← peekValue with
    | '[' => do
      skip
      passOpen fuel .firstEntry (.list :: frames)
    | '\x7b' => do
      skip
      passOpen fuel .firstEntry (.object :: frames)
    | char => do
      passScalar char
      passOpen fuel .nextEntry frames
  | _ + 1, _, [] => return ()
  | fuel + 1, expecting, frame :: frames => do
    skipBlanks
    match ← peek? with
    | none => failNext frame.unfinished
    | some char =>
      if char = frame.closer then do
        skip
        passOpen fuel .nextEntry frames
      else if expecting = .firstEntry then do
        passKey frame
        passOpen fuel .value (frame :: frames)
      else if char = ',' then do
        skip
        passKey frame
        passOpen fuel .value (frame :: frames)
      else
        failNext frame.expectedCommaOrEnd

def passValue : Reader Unit := do
  passOpen (2 * (← bound)) .value []

end Lindenmayer.Json.Reader
