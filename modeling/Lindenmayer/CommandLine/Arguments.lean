/-!
# Command line arguments

The program takes a grammar file and a number of rounds, in this order, and
options before, between or after them. An argument that begins with a dash is an
option, except for a single dash, for all that follows `--`, and for negative
numbers where the number of rounds is due. No option may be given twice.

Arguments are gone through from left to right, and the first one that settles
the matter does so: a fault, or a request for help or the version.
-/

namespace Lindenmayer.CommandLine

/-- What the user wants rendered, and how. -/
structure Request where
  config : String
  rounds : Int
  /-- Path of the document, if it is not to go to standard output. -/
  output? : Option String
  /-- Seed to be used instead of the grammar's own. -/
  seed? : Option UInt64
  verbose : Bool
deriving DecidableEq, Repr

inductive Command where
  | showVersion
  | showHelp
  | render (request : Request)
deriving DecidableEq, Repr

/-! ## Numbers -/

/-- The number written by decimal digits, of which there must be some. -/
def digitsValue? (chars : List Char) : Option Nat :=
  if chars.isEmpty || !chars.all Char.isDigit then none
  else some (chars.foldl (fun value char => 10 * value + (char.toNat - '0'.toNat)) 0)

/-- A number of rounds: a whole number of 32 bits, with a sign or without. -/
def roundsValue? (text : String) : Option Int := do
  let value : Int ← match text.toList with
    | '-' :: digits => (digitsValue? digits).map fun magnitude => -(magnitude : Int)
    | '+' :: digits => (digitsValue? digits).map Int.ofNat
    | digits => (digitsValue? digits).map Int.ofNat
  if -(Nat.pow 2 31) ≤ value ∧ value < Nat.pow 2 31 then some value else none

/-- A seed: an unsigned whole number of 64 bits. -/
def seedValue? (text : String) : Option UInt64 := do
  let value ← match text.toList with
    | '+' :: digits => digitsValue? digits
    | digits => digitsValue? digits
  if value < Nat.pow 2 64 then some (UInt64.ofNat value) else none

/-- Whether a text reads as a number, with or without a point and an exponent. -/
def isNumeral (chars : List Char) : Bool :=
  let whole := chars.takeWhile Char.isDigit
  let afterWhole := chars.dropWhile Char.isDigit
  let afterPoint :=
    match afterWhole with
    | '.' :: rest => rest.dropWhile Char.isDigit
    | rest => rest
  !whole.isEmpty &&
    match afterPoint with
    | [] => true
    | 'e' :: exponent | 'E' :: exponent => !exponent.isEmpty && exponent.all Char.isDigit
    | _ => false

/-! ## Going through the arguments -/

inductive Setting where
  | output
  | seed
deriving DecidableEq, Repr

/-- The arguments gone through so far. -/
structure Draft where
  config? : Option String := none
  rounds? : Option Int := none
  output? : Option String := none
  seed? : Option UInt64 := none
  verbose : Bool := false
deriving DecidableEq, Repr

namespace Draft

def awaitsRounds (draft : Draft) : Bool :=
  draft.config?.isSome && draft.rounds?.isNone

/-- Takes an argument that is no option; paths must not be empty. -/
def addPositional? (draft : Draft) (text : String) : Option Draft :=
  match draft.config?, draft.rounds? with
  | none, _ => if text.isEmpty then none else some { draft with config? := some text }
  | some _, none => (roundsValue? text).map fun rounds => { draft with rounds? := some rounds }
  | some _, some _ => none

def addSetting? (draft : Draft) (setting : Setting) (text : String) : Option Draft :=
  match setting with
  | .output =>
    if draft.output?.isSome || text.isEmpty then none
    else some { draft with output? := some text }
  | .seed =>
    if draft.seed?.isSome then none
    else (seedValue? text).map fun seed => { draft with seed? := some seed }

def addVerbose? (draft : Draft) : Option Draft :=
  if draft.verbose then none else some { draft with verbose := true }

/-- The request, if grammar file and number of rounds have been given. -/
def complete? (draft : Draft) : Option Command := do
  let config ← draft.config?
  let rounds ← draft.rounds?
  some (.render {
    config
    rounds
    output? := draft.output?
    seed? := draft.seed?
    verbose := draft.verbose })

/-- Whether an argument may be the value of the option before it. -/
def mayBeValue (draft : Draft) (text : String) : Bool :=
  match text.toList with
  | ['-'] => true
  | '-' :: rest => draft.awaitsRounds && isNumeral rest
  | _ => true

end Draft

inductive Step where
  | refused
  /-- It settles the matter. -/
  | settled (command : Command)
  /-- None of the arguments after it is an option. -/
  | noMoreOptions
  | taken (draft : Draft)
  /-- Its value is the next argument. -/
  | awaiting (setting : Setting) (draft : Draft)

/-- The step of an argument that can be taken only in some cases. -/
def Step.ofOption : Option Draft → Step
  | none => refused
  | some draft => taken draft

/-- An option that has a value, with the value if it is attached. -/
def settingStep (draft : Draft) (setting : Setting) : Option String → Step
  | some value => .ofOption (draft.addSetting? setting value)
  | none => .awaiting setting draft

def longStep (draft : Draft) (chars : List Char) : Step :=
  let name := String.ofList (chars.takeWhile (· ≠ '='))
  let value? := match chars.dropWhile (· ≠ '=') with
    | [] => none
    | _ :: value => some (String.ofList value)
  match name, value? with
  | "output", _ => settingStep draft .output value?
  | "seed", _ => settingStep draft .seed value?
  | "verbose", none => .ofOption draft.addVerbose?
  | "version", none => .settled .showVersion
  | "help", none => .settled .showHelp
  | _, _ => .refused

/-- Options with short names, one after the other; the last one may have a value attached. -/
def shortStep (draft : Draft) : List Char → Step
  | [] => .taken draft
  | 'v' :: rest =>
    match draft.addVerbose? with
    | none => .refused
    | some draft => shortStep draft rest
  | 'V' :: _ => .settled .showVersion
  | 'h' :: _ => .settled .showHelp
  | ['o'] => .awaiting .output draft
  | 'o' :: '=' :: value => settingStep draft .output (some (String.ofList value))
  | 'o' :: value => settingStep draft .output (some (String.ofList value))
  | _ => .refused

def step (draft : Draft) (argument : String) : Step :=
  match argument.toList with
  | ['-', '-'] => .noMoreOptions
  | '-' :: '-' :: name => longStep draft name
  | '-' :: first :: rest =>
    if draft.awaitsRounds && isNumeral (first :: rest) then
      .ofOption (draft.addPositional? argument)
    else
      shortStep draft (first :: rest)
  | _ => .ofOption (draft.addPositional? argument)

def parsePositionals (draft : Draft) : List String → Option Command
  | [] => draft.complete?
  | argument :: rest =>
    match draft.addPositional? argument with
    | none => none
    | some draft => parsePositionals draft rest

def parseFrom (draft : Draft) : List String → Option Command
  | [] => draft.complete?
  | argument :: rest =>
    match step draft argument with
    | .refused => none
    | .settled command => some command
    | .noMoreOptions => parsePositionals draft rest
    | .taken draft => parseFrom draft rest
    | .awaiting setting draft =>
      match rest with
      | [] => none
      | value :: rest =>
        if draft.mayBeValue value then
          match draft.addSetting? setting value with
          | none => none
          | some draft => parseFrom draft rest
        else
          none

/-- What the user wants, or nothing if the arguments cannot be accepted. -/
def parse (arguments : List String) : Option Command :=
  parseFrom {} arguments

end Lindenmayer.CommandLine
