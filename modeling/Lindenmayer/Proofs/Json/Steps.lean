import Lindenmayer.Json.Tree

/-!
# Single steps of reading

What the smallest readers do to the text before them, and how readers follow one another.
-/

namespace Lindenmayer.Json

theorem AreBlank.append {blanks further : List Char} (blank : AreBlank blanks)
    (furtherBlank : AreBlank further) : AreBlank (blanks ++ further) :=
  List.forall_mem_append.mpr ⟨blank, furtherBlank⟩

namespace Reader

variable {α β : Type} {reader : Reader α} {next : α → Reader β} {text : List Char}

/-! ## Readers one after the other -/

theorem bind_of_ok {value : α} {rest : List Char} (taken : reader text = .ok (value, rest)) :
    (reader >>= next) text = next value rest := by
  change (reader text).bind (fun result => next result.1 result.2) = _
  rw [taken]
  rfl

/-- Two readers succeed just if the second one does so on what the first one leaves. -/
theorem bind_eq_ok_iff {result : β × List Char} :
    (reader >>= next) text = .ok result ↔
      ∃ value rest, reader text = .ok (value, rest) ∧ next value rest = .ok result := by
  change (reader text).bind (fun result => next result.1 result.2) = _ ↔ _
  cases taken : reader text with
  | error failure => simp [Except.bind]
  | ok first =>
      rcases first with ⟨value, rest⟩
      constructor
      · intro ended
        exact ⟨value, rest, rfl, ended⟩
      · rintro ⟨_, _, ⟨rfl, rfl⟩, ended⟩
        exact ended

theorem pure_apply (value : α) (text : List Char) :
    (pure value : Reader α) text = .ok (value, text) :=
  rfl

theorem pure_eq_ok_iff {value : α} {result : α × List Char} :
    (pure value : Reader α) text = .ok result ↔ result = (value, text) := by
  rw [pure_apply, Except.ok.injEq]
  exact eq_comm

theorem peek?_apply (text : List Char) : peek? text = .ok (text.head?, text) := rfl

theorem skip_apply (char : Char) (rest : List Char) : skip (char :: rest) = .ok ((), rest) := rfl

theorem get_apply (text : List Char) : (get : Reader (List Char)) text = .ok (text, text) := rfl

theorem bound_apply (text : List Char) : bound text = .ok (text.length + 1, text) := rfl

theorem failPast_ne_ok (ahead : Nat) (reason : Reason) (result : α × List Char) :
    failPast ahead reason text ≠ .ok result := by
  intro impossible
  cases impossible

/-! ## Blanks -/

theorem dropBlanks_blanks {blanks rest : List Char} (blank : AreBlank blanks) :
    dropBlanks (blanks ++ rest) = dropBlanks rest := by
  induction blanks with
  | nil => rfl
  | cons char blanks inductionHypothesis =>
      rcases List.forall_mem_cons.mp blank with ⟨charBlank, restBlank⟩
      rw [List.cons_append, dropBlanks, List.dropWhile_cons_of_pos charBlank]
      exact inductionHypothesis restBlank

theorem skipBlanks_blanks {blanks rest : List Char} {char : Char} (blank : AreBlank blanks)
    (notBlank : isBlank char = false) :
    skipBlanks (blanks ++ char :: rest) = .ok ((), char :: rest) := by
  have stops : dropBlanks (char :: rest) = char :: rest := by
    rw [dropBlanks, List.dropWhile_cons_of_neg]
    simp [notBlank]
  change Except.ok ((), dropBlanks (blanks ++ char :: rest)) = _
  rw [dropBlanks_blanks blank, stops]

theorem peekValue_blanks {blanks rest : List Char} {char : Char} (blank : AreBlank blanks)
    (notBlank : isBlank char = false) :
    peekValue (blanks ++ char :: rest) = .ok (char, char :: rest) := by
  unfold peekValue
  rw [bind_of_ok (skipBlanks_blanks blank notBlank), bind_of_ok (peek?_apply _)]
  rfl

theorem literal_apply (expected rest : List Char) :
    literal expected (expected ++ rest) = .ok ((), rest) := by
  induction expected with
  | nil => rfl
  | cons char expected inductionHypothesis =>
      unfold literal
      rw [bind_of_ok (peek?_apply _)]
      simp only [List.cons_append, List.head?_cons, if_true]
      rw [bind_of_ok (skip_apply _ _)]
      exact inductionHypothesis

end Reader

end Lindenmayer.Json
