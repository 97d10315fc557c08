import Lindenmayer.Grammar.Basic

/-!
# Building grammars

The things a grammar can be told while it is built up, as data, and what a list
of them says about each character without any symbols: the name bound to it last,
the bodies given to it in order, and the characters mentioned, each at its first
mention. `Grammar.Records` compares this with what can be read off a grammar.
-/

namespace Lindenmayer

/-- Something a grammar can be told. -/
inductive GrammarEdit where
  | intern (char : Char)
  | setAction (char : Char) (name : String)
  | setInitiator (text : String)
  | addRule (char : Char) (text : String)
  | setSeed (seed : UInt64)
deriving DecidableEq, Repr

namespace GrammarEdit

def perform (grammar : Grammar) : GrammarEdit → Grammar
  | intern char => (grammar.intern char).2
  | setAction char name => grammar.setAction char name
  | setInitiator text => grammar.setInitiator text
  | addRule char text => grammar.addRule char text
  | setSeed seed => grammar.setSeed seed

/-- The symbol that an edit is answered with, if it is answered with one. -/
def answer? (grammar : Grammar) : GrammarEdit → Option Symbol
  | intern char => some (grammar.intern char).1
  | setAction char _ => some (grammar.intern char).1
  | _ => none

/-- The characters mentioned, in order and with repetitions. -/
def mentions : GrammarEdit → List Char
  | intern char => [char]
  | setAction char _ => [char]
  | setInitiator text => text.toList
  | addRule char text => char :: text.toList
  | setSeed _ => []

def actionOf? (char : Char) : GrammarEdit → Option String
  | setAction bound name => if bound = char then some name else none
  | _ => none

def bodyOf? (char : Char) : GrammarEdit → Option String
  | addRule head text => if head = char then some text else none
  | _ => none

def initiator? : GrammarEdit → Option String
  | setInitiator text => some text
  | _ => none

def seed? : GrammarEdit → Option UInt64
  | setSeed seed => some seed
  | _ => none

/-- The characters that edits mention, in order and with repetitions. -/
def mentioned (edits : List GrammarEdit) : List Char :=
  edits.flatMap mentions

end GrammarEdit

/-- Each item once, at its first occurrence, except for those in a list given beforehand. -/
def firstOccurrencesAfter {α : Type} [DecidableEq α] (earlier : List α) : List α → List α
  | [] => []
  | item :: rest =>
    if item ∈ earlier then firstOccurrencesAfter earlier rest
    else item :: firstOccurrencesAfter (item :: earlier) rest

def firstOccurrences {α : Type} [DecidableEq α] (items : List α) : List α :=
  firstOccurrencesAfter [] items

namespace Grammar

def performAll (grammar : Grammar) (edits : List GrammarEdit) : Grammar :=
  edits.foldl GrammarEdit.perform grammar

def ofEdits (edits : List GrammarEdit) : Grammar :=
  performAll empty edits

def bodyTexts (grammar : Grammar) (symbol : Symbol) : List String :=
  (grammar.alternatives symbol).map Word.text

/-- The action name of a character. -/
def nameOf? (grammar : Grammar) (char : Char) : Option String :=
  (grammar.symbol? char).bind grammar.action?

/-- The bodies of a character, written in characters; none for one without a symbol. -/
def textsOf (grammar : Grammar) (char : Char) : List String :=
  ((grammar.symbol? char).map grammar.bodyTexts).getD []

/--
Whether a symbol has been handed out in the course of some edits: one of them was
answered with it, or the grammar listed it at some stage.
-/
inductive HandedOut (edits : List GrammarEdit) (symbol : Symbol) : Prop
  | answer (earlier later : List GrammarEdit) (edit : GrammarEdit)
      (order : edits = earlier ++ edit :: later)
      (answered : edit.answer? (ofEdits earlier) = some symbol)
  | listing (earlier later : List GrammarEdit) (order : edits = earlier ++ later)
      (listed : symbol ∈ (ofEdits earlier).alphabet.symbols)

/-- Whether a grammar says of each character what some edits have said of it. -/
structure Records (grammar : Grammar) (edits : List GrammarEdit) : Prop where
  /-- Symbols by character and characters by number are what interning the mentions leaves. -/
  stores : grammar.alphabet.toStores =
    Alphabet.Stores.empty.internAll (GrammarEdit.mentioned edits)
  /-- The two stores have been kept in step. -/
  consistent : grammar.alphabet.toStores.IsConsistent
  /-- The characters mentioned are numbered in order of first mention. -/
  symbols : grammar.alphabet.symbols =
    (firstOccurrences (GrammarEdit.mentioned edits)).zipIdx.map fun (char, id) => { id, char }
  /-- Hence no character is listed twice, nor before one that was mentioned earlier. -/
  ordered : (grammar.alphabet.symbols.map Symbol.char).Pairwise fun first second =>
    (GrammarEdit.mentioned edits).idxOf first < (GrammarEdit.mentioned edits).idxOf second
  /-- Numbers fit into words of thirty-two bits. -/
  fits : ∀ symbol ∈ grammar.alphabet.symbols, symbol.id < UInt32.size
  entry : ∀ char symbol, grammar.symbol? char = some symbol ↔
    symbol ∈ grammar.alphabet.symbols ∧ symbol.char = char
  noEntry : ∀ char, grammar.symbol? char = none ↔ char ∉ GrammarEdit.mentioned edits
  /-- The name given last. -/
  name : ∀ char, grammar.nameOf? char = (edits.filterMap (GrammarEdit.actionOf? char)).getLast?
  /-- All bodies, in the order in which they were given. -/
  texts : ∀ char, grammar.textsOf char = edits.filterMap (GrammarEdit.bodyOf? char)
  initiator : grammar.initiator.text =
    ((edits.filterMap GrammarEdit.initiator?).getLast?).getD ""
  seed : grammar.seed = ((edits.filterMap GrammarEdit.seed?).getLast?).getD defaultSeed
  ownInitiator : ∀ symbol ∈ grammar.initiator, grammar.symbol? symbol.char = some symbol
  ownBodies : ∀ head, ∀ body ∈ grammar.alternatives head, ∀ symbol ∈ body,
    grammar.symbol? symbol.char = some symbol
  /-- Symbols keep their meaning from the moment they are handed out. -/
  kept : ∀ symbol, HandedOut edits symbol →
    grammar.symbol? symbol.char = some symbol ∧
      grammar.alphabet.charOf? symbol = some symbol.char

theorem performAll_append (grammar : Grammar) (first second : List GrammarEdit) :
    grammar.performAll (first ++ second) = (grammar.performAll first).performAll second :=
  List.foldl_append

end Grammar

end Lindenmayer
