import Lindenmayer.Json.Reader

/-!
# JSON values

The values that JSON texts denote, the one text in which each is written, and a
reader that takes a value of any kind. A value is written without blanks; in
strings only quotes, backslashes and control characters are escaped.
-/

namespace Lindenmayer.Json

/-- What a JSON text denotes; members keep their order and may repeat. -/
inductive Value where
  | null
  | boolean (value : Bool)
  | number (value : Number)
  | string (value : String)
  | list (elements : List Value)
  | object (members : List (String × Value))
deriving Inhabited

namespace Value

def float (value : Float) : Value := number (.float value)

def optional {α : Type} (encode : α → Value) : Option α → Value
  | none => null
  | some value => encode value

/-! ## Writing -/

def hexDigit (value : Nat) : Char := (Nat.toDigits 16 (value % 16)).headD '0'

def escapedChar (char : Char) : List Char :=
  match char with
  | '"' => ['\\', '"']
  | '\\' => ['\\', '\\']
  | '\x08' => ['\\', 'b']
  | '\x0c' => ['\\', 'f']
  | '\n' => ['\\', 'n']
  | '\r' => ['\\', 'r']
  | '\t' => ['\\', 't']
  | _ =>
    if Reader.isControl char then
      ['\\', 'u', '0', '0', hexDigit (char.toNat / 16), hexDigit char.toNat]
    else
      [char]

def stringChars (text : String) : List Char :=
  ['"'] ++ text.toList.flatMap escapedChar ++ ['"']

mutual

def chars : Value → List Char
  | null => ['n', 'u', 'l', 'l']
  | boolean true => ['t', 'r', 'u', 'e']
  | boolean false => ['f', 'a', 'l', 's', 'e']
  | number value => value.chars
  | string value => stringChars value
  | list elements => ['['] ++ elementChars elements ++ [']']
  | object members => ['\x7b'] ++ memberChars members ++ ['\x7d']

def elementChars : List Value → List Char
  | [] => []
  | [element] => chars element
  | element :: next :: rest => chars element ++ [','] ++ elementChars (next :: rest)

def memberChars : List (String × Value) → List Char
  | [] => []
  | [(key, value)] => stringChars key ++ [':'] ++ chars value
  | (key, value) :: next :: rest =>
    stringChars key ++ [':'] ++ chars value ++ [','] ++ memberChars (next :: rest)

end

def text (value : Value) : String := String.ofList value.chars

end Value

namespace Reader

/-! ## Reading -/

def value : (levels : Nat) → Reader Value
  | 0 => do scalarOr (failNext (.malformed .nestedTooDeeply)) (failNext (.malformed .nestedTooDeeply))
  | levels + 1 =>
    scalarOr
      (inList (levels + 1) fun _ => do
        return .list (← elements (value levels) (← bound) true))
      (inObject (levels + 1) fun _ => do
        return .object (← members (value levels) (← bound) true))
where
  /-- Takes off a value, given readers for lists and objects. -/
  scalarOr (list object : Reader Value) : Reader Value := do
    match ← peekValue with
    | 'n' => do
      skip
      literal ['u', 'l', 'l']
      return .null
    | 't' => do
      skip
      literal ['r', 'u', 'e']
      return .boolean true
    | 'f' => do
      skip
      literal ['a', 'l', 's', 'e']
      return .boolean false
    | '"' => do
      skip
      return .string (← stringBody)
    | '[' => list
    | '\x7b' => object
    | char =>
      if beginsNumber char then do return .number (← number)
      else failNext (.malformed .expectedValue)

end Reader

end Lindenmayer.Json
