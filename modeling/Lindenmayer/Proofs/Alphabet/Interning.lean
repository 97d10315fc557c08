import Lindenmayer.Alphabet

/-!
# Interning

Alphabets grow at the end only. A symbol therefore stays a symbol of the alphabet
however much is interned after it, and the words that interning hands out are made
of symbols of the alphabet it leaves behind.

Symbols are looked up in one store and listed from the other. Both ways lead to the same
symbols (`resolve?_eq_some_iff`), as the two stores are in step.
-/

namespace Lindenmayer.Alphabet

/-- Whether an alphabet lists what an earlier one lists, followed by new characters. -/
def Extends (later earlier : Alphabet) : Prop :=
  earlier.chars <+: later.chars

theorem Extends.refl (alphabet : Alphabet) : alphabet.Extends alphabet :=
  List.prefix_refl alphabet.chars

theorem Extends.trans {last middle first : Alphabet} (laterExtends : last.Extends middle)
    (earlierExtends : middle.Extends first) : last.Extends first :=
  List.IsPrefix.trans earlierExtends laterExtends

/-- The symbols of an alphabet are the pairs of a listed character and its place. -/
theorem mem_symbols_iff {alphabet : Alphabet} {symbol : Symbol} :
    symbol ∈ alphabet.symbols ↔ alphabet.chars[symbol.id]? = some symbol.char := by
  rcases symbol with ⟨id, char⟩
  simp only [symbols, List.mem_map, Prod.exists, List.mem_zipIdx_iff_getElem?, Symbol.mk.injEq]
  constructor
  · rintro ⟨listed, place, found, rfl, rfl⟩
    exact found
  · intro found
    exact ⟨char, id, found, rfl, rfl⟩

/-- A symbol of an alphabet is found under its number. -/
theorem getElem?_symbols_of_mem {alphabet : Alphabet} {symbol : Symbol}
    (listed : symbol ∈ alphabet.symbols) : alphabet.symbols[symbol.id]? = some symbol := by
  rw [mem_symbols_iff] at listed
  simp [symbols, List.getElem?_map, List.getElem?_zipIdx, listed]

/-- Symbols stay symbols when the alphabet grows. -/
theorem mem_symbols_of_extends {later earlier : Alphabet} (grown : later.Extends earlier)
    {symbol : Symbol} (listed : symbol ∈ earlier.symbols) : symbol ∈ later.symbols := by
  rw [mem_symbols_iff] at listed ⊢
  rcases grown with ⟨added, appended⟩
  have inside : symbol.id < earlier.chars.length := (List.getElem?_eq_some_iff.mp listed).1
  rw [← appended, List.getElem?_append_left inside]
  exact listed

/-- A symbol of the grown alphabet with an old number is an old symbol. -/
theorem mem_symbols_of_id_lt {later earlier : Alphabet} (grown : later.Extends earlier)
    {symbol : Symbol} (listed : symbol ∈ later.symbols) (inside : symbol.id < earlier.size) :
    symbol ∈ earlier.symbols := by
  rw [mem_symbols_iff] at listed ⊢
  rcases grown with ⟨added, appended⟩
  rwa [← appended, List.getElem?_append_left inside] at listed

theorem Extends.size_le {later earlier : Alphabet} (grown : later.Extends earlier) :
    earlier.size ≤ later.size :=
  List.IsPrefix.length_le grown

theorem Lists.mono {later earlier : Alphabet} (grown : later.Extends earlier) {word : Word}
    (listed : earlier.Lists word) : later.Lists word :=
  fun symbol symbolMem => mem_symbols_of_extends grown (listed symbol symbolMem)

@[simp]
theorem lists_nil (alphabet : Alphabet) : alphabet.Lists [] := by
  simp [Lists]

@[simp]
theorem lists_cons {alphabet : Alphabet} {symbol : Symbol} {rest : Word} :
    alphabet.Lists (symbol :: rest) ↔ symbol ∈ alphabet.symbols ∧ alphabet.Lists rest := by
  simp [Lists]

@[simp]
theorem lists_append {alphabet : Alphabet} {left right : Word} :
    alphabet.Lists (left ++ right) ↔ alphabet.Lists left ∧ alphabet.Lists right := by
  simp [Lists, or_imp, forall_and]

/-- The symbol of a character is the one symbol of the alphabet that has it. -/
theorem resolve?_eq_some_iff {alphabet : Alphabet} {char : Char} {symbol : Symbol} :
    alphabet.resolve? char = some symbol ↔ symbol ∈ alphabet.symbols ∧ symbol.char = char := by
  rw [resolve?, alphabet.consistent, mem_symbols_iff]
  constructor
  · rintro ⟨rfl, found⟩
    exact ⟨found, rfl⟩
  · rintro ⟨found, rfl⟩
    exact ⟨rfl, found⟩

/-- A character that has a symbol is listed in its place. -/
theorem mem_symbols_of_resolve?_eq_some {alphabet : Alphabet} {char : Char} {symbol : Symbol}
    (known : alphabet.resolve? char = some symbol) : symbol ∈ alphabet.symbols :=
  (resolve?_eq_some_iff.mp known).1

theorem resolve?_eq_none_iff {alphabet : Alphabet} {char : Char} :
    alphabet.resolve? char = none ↔ char ∉ alphabet.chars :=
  alphabet.consistent.resolve?_eq_none_iff

/-- A symbol of an alphabet is the symbol of its character. -/
theorem resolve?_char_of_mem {alphabet : Alphabet} {symbol : Symbol}
    (listed : symbol ∈ alphabet.symbols) : alphabet.resolve? symbol.char = some symbol :=
  resolve?_eq_some_iff.mpr ⟨listed, rfl⟩

/-- A known character keeps its symbol when the alphabet grows. -/
theorem resolve?_of_extends {later earlier : Alphabet} (grown : later.Extends earlier)
    {char : Char} {symbol : Symbol} (known : earlier.resolve? char = some symbol) :
    later.resolve? char = some symbol := by
  rw [resolve?_eq_some_iff] at known ⊢
  exact ⟨mem_symbols_of_extends grown known.1, known.2⟩

theorem id_lt_size_of_mem {alphabet : Alphabet} {symbol : Symbol}
    (listed : symbol ∈ alphabet.symbols) : symbol.id < alphabet.size :=
  (List.getElem?_eq_some_iff.mp (mem_symbols_iff.mp listed)).1

/-- Symbols of an alphabet differ in their numbers. -/
theorem eq_of_id_eq {alphabet : Alphabet} {symbol other : Symbol}
    (listed : symbol ∈ alphabet.symbols) (otherListed : other ∈ alphabet.symbols)
    (sameId : symbol.id = other.id) : symbol = other := by
  have found := getElem?_symbols_of_mem listed
  rw [sameId, getElem?_symbols_of_mem otherListed] at found
  exact (Option.some.inj found).symm

namespace Stores

theorem chars_isPrefix_intern (stores : Stores) (char : Char) :
    stores.chars <+: (stores.intern char).2.chars := by
  rcases stores.intern_cases char with ⟨symbol, _, interned⟩ | ⟨_, interned⟩
  · simp [interned]
  · rw [interned]
    exact List.prefix_append stores.chars [char]

theorem resolve?_intern (stores : Stores) (char : Char) :
    (stores.intern char).2.resolve? char = some (stores.intern char).1 := by
  rcases stores.intern_cases char with ⟨symbol, known, interned⟩ | ⟨_, interned⟩
  · rw [interned]
    exact known
  · rw [interned, resolve?_enter, if_pos rfl]

end Stores

/-- Interning lists at most one further character. -/
theorem intern_extends (alphabet : Alphabet) (char : Char) :
    (alphabet.intern char).2.Extends alphabet :=
  alphabet.chars_isPrefix_intern char

/-- Interning hands out the symbol that the character has from then on. -/
theorem resolve?_intern (alphabet : Alphabet) (char : Char) :
    (alphabet.intern char).2.resolve? char = some (alphabet.intern char).1 :=
  alphabet.toStores.resolve?_intern char

/-- Interning hands out a symbol of the alphabet it leaves behind. -/
theorem intern_mem_symbols (alphabet : Alphabet) (char : Char) :
    (alphabet.intern char).1 ∈ (alphabet.intern char).2.symbols :=
  mem_symbols_of_resolve?_eq_some (alphabet.resolve?_intern char)

/-- Both stores of an alphabet are filled by interning one character after the other. -/
theorem toStores_internChars (alphabet : Alphabet) (chars : List Char) :
    (alphabet.internChars chars).2.toStores = alphabet.toStores.internAll chars := by
  induction chars generalizing alphabet with
  | nil => rfl
  | cons char rest inductionHypothesis => exact inductionHypothesis (alphabet.intern char).2

theorem internChars_extends (alphabet : Alphabet) (chars : List Char) :
    (alphabet.internChars chars).2.Extends alphabet := by
  induction chars generalizing alphabet with
  | nil => exact Extends.refl alphabet
  | cons char rest inductionHypothesis =>
      exact (inductionHypothesis (alphabet.intern char).2).trans (alphabet.intern_extends char)

theorem internChars_lists (alphabet : Alphabet) (chars : List Char) :
    (alphabet.internChars chars).2.Lists (alphabet.internChars chars).1 := by
  induction chars generalizing alphabet with
  | nil => exact lists_nil alphabet
  | cons char rest inductionHypothesis =>
      simp only [internChars, lists_cons]
      constructor
      · exact mem_symbols_of_extends ((alphabet.intern char).2.internChars_extends rest)
          (alphabet.intern_mem_symbols char)
      · exact inductionHypothesis (alphabet.intern char).2

/-- Interning characters hands out one symbol for each of them. -/
theorem map_char_internChars (alphabet : Alphabet) (chars : List Char) :
    (alphabet.internChars chars).1.map Symbol.char = chars := by
  induction chars generalizing alphabet with
  | nil => rfl
  | cons char rest inductionHypothesis =>
      have handedOut := (resolve?_eq_some_iff.mp (alphabet.resolve?_intern char)).2
      simp only [internChars, List.map_cons, inductionHypothesis, handedOut]

/-- The word that a text is interned as reads as the text. -/
theorem text_internText (alphabet : Alphabet) (text : String) :
    (alphabet.internText text).1.text = text := by
  rw [Word.text, internText, map_char_internChars, String.ofList_toList]

/-- Interning a text only adds characters to the alphabet. -/
theorem internText_extends (alphabet : Alphabet) (text : String) :
    (alphabet.internText text).2.Extends alphabet :=
  alphabet.internChars_extends text.toList

/-- Interning a text hands out a word of symbols of the alphabet it leaves behind. -/
theorem internText_lists (alphabet : Alphabet) (text : String) :
    (alphabet.internText text).2.Lists (alphabet.internText text).1 :=
  alphabet.internChars_lists text.toList

end Lindenmayer.Alphabet
