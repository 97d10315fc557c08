import Lindenmayer.Proofs.Json.Writing
import Lindenmayer.Proofs.KeyedTable
import Lindenmayer.GrammarFile.Text

/-!
# Grammar files survive being written

The object that is written for a grammar file gives all five fields, `null` standing for the
optional ones that are absent. Each is read back from what is written for it, so the file is
read back from its text. A single body stays a single body, and a list of one body stays a
list, since the two are written differently.
-/

namespace Lindenmayer

open Json Json.Reader

/-! ## Bodies -/

namespace RuleBodies

theorem ofJson?_toJson (bodies : RuleBodies) : ofJson? bodies.toJson = some bodies := by
  cases bodies with
  | one body => rfl
  | many bodies =>
      have texts : (bodies.map Value.string).mapM ofJson?.textOf? = some bodies := by
        induction bodies with
        | nil => rfl
        | cons body bodies inductionHypothesis =>
            rw [List.map_cons, List.mapM_cons, inductionHypothesis]
            rfl
      simp only [toJson, ofJson?, texts, Option.map_some]

theorem takes_value (levels : Nat) (bodies : RuleBodies) :
    Takes (Reader.value (levels + 1)) bodies.toJson.chars bodies.toJson := by
  cases bodies with
  | one body => exact takes_value_string _ body
  | many bodies =>
      apply takes_value_list
      induction bodies with
      | nil => exact .nil
      | cons body bodies inductionHypothesis =>
          exact .cons (takes_value_string levels body) inductionHypothesis

theorem takes_read (levels : Nat) (bodies : RuleBodies) :
    Takes (read (levels + 1)) bodies.toJson.chars bodies := by
  intro rest ends
  unfold read
  rw [bind_of_ok (bodies.takes_value levels ends), ofJson?_toJson]
  rfl

end RuleBodies

/-! ## Parameters -/

namespace Parameters

/-- The numbers that have to be written. -/
def numbers (parameters : Parameters) : List Float :=
  [parameters.units.step, parameters.units.angle] ++
    parameters.start.toList.flatMap fun pose =>
      [pose.position.x, pose.position.y, pose.heading]

theorem takes_readStart (levels : Nat) {pose : Pose} (x : IsReadBack pose.position.x)
    (y : IsReadBack pose.position.y) (heading : IsReadBack pose.heading) :
    Takes (readStart (levels + 1)) (startToJson pose).chars pose := by
  intro rest _
  have closes : continuesNumber ']' = false := by decide
  have afterX :=
    ends_separated Value.chars [.float pose.position.y, .float pose.heading] closes rest
  have afterY := ends_separated Value.chars [.float pose.heading] closes rest
  have afterHeading := ends_separated Value.chars [] closes rest
  unfold startToJson
  rw [chars_list_append]
  unfold readStart listOf
  rw [bind_of_ok (peekValue_first (by decide) _)]
  apply inList_apply
  simp only [separated, List.append_assoc, List.nil_append] at afterX afterY afterHeading ⊢
  apply (bind_of_ok (required_apply (takes_float x) afterX 0 _)).trans
  apply (bind_of_ok (required_apply (takes_float y) afterY 1 _)).trans
  apply (bind_of_ok (required_apply (takes_float heading) afterHeading 2 _)).trans
  rfl

theorem takes_read (levels : Nat) {parameters : Parameters}
    (readBack : ∀ number ∈ parameters.numbers, IsReadBack number) :
    Takes (shape.read (levels + 2)) parameters.toJson.chars parameters := by
  rcases parameters with ⟨⟨step, angle⟩, start⟩
  have startTakes : Takes (optional (readStart (levels + 1)))
      (Value.optional startToJson start).chars start := by
    apply takes_optional
    · intro pose
      simp [startToJson, head?_chars_list]
    · rintro pose ⟨⟩
      apply takes_readStart levels <;> apply readBack <;> simp [numbers]
  have writes : WritesMembers shape (levels + 1) [("step", .float step), ("angle", .float angle),
      ("start", .optional startToJson start)] shape.blank ⟨some step, some angle, some start⟩ := by
    apply WritesMembers.cons rfl rfl ((takes_float (readBack step (by simp [numbers]))).map _)
    apply WritesMembers.cons rfl rfl ((takes_float (readBack angle (by simp [numbers]))).map _)
    exact .cons rfl rfl (startTakes.map _) (.nil _)
  exact writes.takes_read rfl

end Parameters

/-! ## Files -/

namespace GrammarFile

/-- The numbers that have to be written. -/
def numbers (file : GrammarFile) : List Float :=
  file.parameters.toList.flatMap Parameters.numbers

theorem takes_table {α : Type} {levels : Nat} {item : (levels : Nat) → Reader α}
    {encode : α → Value} (taken : ∀ value, Takes (item levels) (encode value).chars value)
    (table : KeyedTable α) :
    Takes (Reader.table (levels + 1) item) (tableToJson encode table).chars table := by
  have entriesTaken : List.Forall₂ (fun member entry =>
      member.1 = entry.1 ∧ Takes (item levels) member.2.chars entry.2)
      (table.entries.map fun entry => (entry.1, encode entry.2)) table.entries := by
    induction table.entries with
    | nil => exact .nil
    | cons entry entries inductionHypothesis =>
        exact .cons ⟨rfl, taken entry.2⟩ inductionHypothesis
  have taken := Reader.takes_table entriesTaken
  rwa [table.ofList_entries] at taken

/--
A grammar file that is written and read again comes out as it was: with any texts for keys,
names, initiator and bodies, with both forms of bodies, with or without the optional fields and
with any seed, provided that its floating-point numbers are read back.
-/
theorem ofText_toText (file : GrammarFile)
    (readBack : ∀ number ∈ file.numbers, IsReadBack number) : ofText file.toText = .ok file := by
  rcases file with ⟨actions, initiator, rules, parameters, seed⟩
  have parametersTake : Takes (optional (Parameters.shape.read 126))
      (Value.optional Parameters.toJson parameters).chars parameters := by
    apply takes_optional
    · intro parameters
      simp [Parameters.toJson, head?_chars_object]
    · rintro parameters ⟨⟩
      apply Parameters.takes_read 124
      intro number numberMem
      exact readBack number (by simpa [numbers] using numberMem)
  have seedTakes : Takes (optional unsigned)
      (Value.optional (fun seed => .number (.unsigned seed)) seed).chars seed := by
    apply takes_optional head?_chars_unsigned_ne
    rintro seed ⟨⟩
    exact takes_unsigned seed
  have writes : WritesMembers shape 126 [("actions", tableToJson .string actions),
      ("axiom", .string initiator), ("rules", tableToJson RuleBodies.toJson rules),
      ("parameters", .optional Parameters.toJson parameters),
      ("seed", .optional (fun seed => .number (.unsigned seed)) seed)] shape.blank
      ⟨some actions, some initiator, some rules, some parameters, some seed⟩ := by
    apply WritesMembers.cons rfl rfl ((takes_table takes_text actions).map _)
    apply WritesMembers.cons rfl rfl ((takes_text initiator).map _)
    apply WritesMembers.cons rfl rfl ((takes_table (RuleBodies.takes_read 124) rules).map _)
    apply WritesMembers.cons rfl rfl (parametersTake.map _)
    exact WritesMembers.cons rfl rfl (seedTakes.map _) (.nil _)
  have taken := writes.takes_read rfl
  exact taken.run_eq_ok

/-- A file full of characters that have to be escaped, and with an empty list of bodies. -/
def troublesome : GrammarFile where
  actions := .ofList [("\"", "turn\\left"), ("\x01", "\n\t"), ("🐢", "")]
  initiator := "\"\x1f🐢/\x08"
  rules := .ofList [("A", .one "null"), ("B", .many ["B"]), ("\\", .many []), ("\uffff", .one "")]
  parameters := some ⟨⟨0.1, -22.5⟩, some ⟨⟨-0.0, 1e300⟩, 5e-324⟩⟩
  seed := some 0xFFFFFFFFFFFFFFFF

theorem ofText_toText_troublesome :
    (∀ number ∈ troublesome.numbers, IsReadBack number) ∧
      ofText troublesome.toText = .ok troublesome := by
  have readBack : ∀ number ∈ troublesome.numbers, IsReadBack number := by decide +kernel
  exact ⟨readBack, ofText_toText troublesome readBack⟩

end GrammarFile

end Lindenmayer
