/-!
# Symbols and alphabets

A grammar is written in characters and works on symbols. An alphabet numbers the
characters that a grammar has mentioned, in order of first mention, and a symbol
pairs a character with its number.

An alphabet has two stores, one of characters by their numbers and one of symbols
by their characters. A new character is entered in each of them, and nothing but
this keeps the two in step. What it is for them to be in step is said of the bare
stores, interning is shown to leave them so, and an alphabet is a pair of stores
together with this. Hence a character has at most one symbol in an alphabet, and a
symbol handed out earlier keeps its meaning however far the alphabet grows:
interning only ever appends.

Symbols are plain values and carry no mark of their alphabet. A symbol that is
handed to another alphabet is looked up there by its number alone, which is why
`Alphabet.charOf?` may answer with a different character.
-/

namespace Lindenmayer

/-- A character together with its number in some alphabet. -/
structure Symbol where
  /-- Place in the alphabet, counted from zero. -/
  id : Nat
  char : Char
deriving DecidableEq, Repr, Inhabited

namespace Symbol

def compare (left right : Symbol) : Ordering :=
  (Ord.compare left.id right.id).then (Ord.compare left.char.toNat right.char.toNat)

instance : Ord Symbol := ⟨compare⟩

instance : ToString Symbol := ⟨fun symbol => String.singleton symbol.char⟩

end Symbol

abbrev Word := List Symbol

def Word.text (word : Word) : String :=
  String.ofList (word.map Symbol.char)

/-- What is kept of the characters that have been mentioned. -/
structure Alphabet.Stores where
  /-- The characters; a symbol's number is the place of its character here. -/
  chars : List Char
  /-- The symbols under their characters; of several entries the first one counts. -/
  byChar : List (Char × Symbol)

namespace Alphabet.Stores

def empty : Stores := ⟨[], []⟩

def resolve? (stores : Stores) (char : Char) : Option Symbol :=
  stores.byChar.lookup char

/-- Gives a character the next number and enters it in both stores. -/
def enter (stores : Stores) (char : Char) : Symbol × Stores :=
  let symbol : Symbol := { id := stores.chars.length, char }
  (symbol, { chars := stores.chars ++ [char], byChar := (char, symbol) :: stores.byChar })

/-- The symbol of a character, which is entered first if it has none. -/
def intern (stores : Stores) (char : Char) : Symbol × Stores :=
  match stores.resolve? char with
  | some symbol => (symbol, stores)
  | none => stores.enter char

/-- Interns characters one after the other. -/
def internAll (stores : Stores) (chars : List Char) : Stores :=
  chars.foldl (fun stores char => (stores.intern char).2) stores

/-- Whether the stores are in step: the symbol of a character bears the place of the character. -/
def IsConsistent (stores : Stores) : Prop :=
  ∀ (char : Char) (symbol : Symbol), stores.resolve? char = some symbol ↔
    symbol.char = char ∧ stores.chars[symbol.id]? = some char

theorem isConsistent_empty : empty.IsConsistent := by
  simp [IsConsistent, empty, resolve?]

theorem resolve?_enter (stores : Stores) (entered char : Char) :
    (stores.enter entered).2.resolve? char =
      if char = entered then some (stores.enter entered).1 else stores.resolve? char := by
  by_cases same : char = entered
  · simp [enter, resolve?, same]
  · simp [enter, resolve?, List.lookup_cons, beq_false_of_ne same, same]

/-- The place of a character after one more has been listed. -/
theorem getElem?_chars_enter {stores : Stores} {entered char : Char} {place : Nat} :
    (stores.enter entered).2.chars[place]? = some char ↔
      stores.chars[place]? = some char ∨ place = stores.chars.length ∧ entered = char := by
  by_cases inside : place < stores.chars.length
  · rw [enter, List.getElem?_append_left inside]
    simp [Nat.ne_of_lt inside]
  · rw [enter, List.getElem?_append_right (Nat.le_of_not_lt inside),
      List.getElem?_eq_none (Nat.le_of_not_lt inside), List.getElem?_singleton]
    grind

variable {stores : Stores}

theorem intern_cases (stores : Stores) (char : Char) :
    (∃ symbol, stores.resolve? char = some symbol ∧ stores.intern char = (symbol, stores)) ∨
      stores.resolve? char = none ∧ stores.intern char = stores.enter char := by
  unfold intern
  cases known : stores.resolve? char with
  | some symbol => exact .inl ⟨symbol, rfl, rfl⟩
  | none => exact .inr ⟨rfl, rfl⟩

/-- What one store does not have the other one does not have either. -/
theorem IsConsistent.resolve?_eq_none_iff (consistent : stores.IsConsistent) {char : Char} :
    stores.resolve? char = none ↔ char ∉ stores.chars := by
  constructor
  · intro unknown listed
    rcases List.mem_iff_getElem?.mp listed with ⟨place, found⟩
    have known := (consistent char ⟨place, char⟩).mpr ⟨rfl, found⟩
    rw [unknown] at known
    cases known
  · intro fresh
    cases known : stores.resolve? char with
    | none => rfl
    | some symbol =>
        have found := ((consistent char symbol).mp known).2
        exact absurd (List.mem_of_getElem? found) fresh

/-- Entering a new character keeps the stores in step. -/
theorem IsConsistent.enter (consistent : stores.IsConsistent) {entered : Char}
    (fresh : entered ∉ stores.chars) : (stores.enter entered).2.IsConsistent := by
  rintro char ⟨id, named⟩
  rw [resolve?_enter, getElem?_chars_enter]
  by_cases same : char = entered
  · subst same
    have absent : stores.chars[id]? ≠ some char := fun found => fresh (List.mem_of_getElem? found)
    simp [Stores.enter, absent, eq_comm, and_comm]
  · rw [if_neg same, consistent char ⟨id, named⟩]
    simp [Ne.symm same]

theorem IsConsistent.intern (consistent : stores.IsConsistent) (char : Char) :
    (stores.intern char).2.IsConsistent := by
  rcases stores.intern_cases char with ⟨symbol, known, interned⟩ | ⟨unknown, interned⟩
  · rw [interned]
    exact consistent
  · rw [interned]
    exact consistent.enter (consistent.resolve?_eq_none_iff.mp unknown)

end Alphabet.Stores

/-- The characters a grammar has mentioned, each once, with their symbols. -/
structure Alphabet extends Alphabet.Stores where
  consistent : toStores.IsConsistent

namespace Alphabet

def empty : Alphabet := ⟨.empty, Stores.isConsistent_empty⟩

instance : EmptyCollection Alphabet := ⟨empty⟩

instance : Inhabited Alphabet := ⟨empty⟩

def size (alphabet : Alphabet) : Nat :=
  alphabet.chars.length

def isEmpty (alphabet : Alphabet) : Bool :=
  alphabet.chars.isEmpty

/-- All symbols, in order of first mention. -/
def symbols (alphabet : Alphabet) : List Symbol :=
  alphabet.chars.zipIdx.map fun (char, id) => { id, char }

def resolve? (alphabet : Alphabet) (char : Char) : Option Symbol :=
  alphabet.toStores.resolve? char

def charOf? (alphabet : Alphabet) (symbol : Symbol) : Option Char :=
  alphabet.chars[symbol.id]?

/-- Whether a word is made of the alphabet's own symbols. -/
def Lists (alphabet : Alphabet) (word : Word) : Prop :=
  ∀ symbol ∈ word, symbol ∈ alphabet.symbols

instance (alphabet : Alphabet) (word : Word) : Decidable (alphabet.Lists word) :=
  inferInstanceAs (Decidable (∀ symbol ∈ word, symbol ∈ alphabet.symbols))

/-- The symbol of a character, listing the character first if it is new. -/
def intern (alphabet : Alphabet) (char : Char) : Symbol × Alphabet :=
  let interned := alphabet.toStores.intern char
  (interned.1, ⟨interned.2, alphabet.consistent.intern char⟩)

def internChars (alphabet : Alphabet) : List Char → Word × Alphabet
  | [] => ([], alphabet)
  | char :: rest =>
    let (symbol, alphabet) := alphabet.intern char
    let (word, alphabet) := alphabet.internChars rest
    (symbol :: word, alphabet)

def internText (alphabet : Alphabet) (text : String) : Word × Alphabet :=
  alphabet.internChars text.toList

end Alphabet

end Lindenmayer
