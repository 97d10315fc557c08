import Mathlib.Data.List.Perm.Basic
import Lindenmayer.Document.Render
import Lindenmayer.GrammarFile.Build
import Lindenmayer.GrammarFile.Rearrangement
import Lindenmayer.Proofs.GrammarFile.Reading
import Lindenmayer.Proofs.KeyedTable

/-!
# The order in which a grammar file is written does not matter

Members are looked up by their names, and tables sort their entries by their keys, so that
nothing of the order in a text is left in the file that is read. Files may still differ in the
way in which a single body was written, but the grammar is only told the list of the bodies.
-/

namespace Lindenmayer

open Json
open Relator (RightUnique)
open KeyedTable (HaveDistinctKeys MatchEntries)

namespace GrammarFile

variable {α : Type} {means : Tree → α → Prop} {name : String}
  {members others : List (List Char × Tree)}

theorem exists_of_forall₂ {Item Other : Type} {related : Item → Other → Prop} {items : List Item}
    {others : List Other} (alike : List.Forall₂ related items others) {other : Other}
    (isOther : other ∈ others) : ∃ item ∈ items, related item other := by
  induction alike with
  | nil => cases isOther
  | cons head _ inductionHypothesis =>
      rcases List.mem_cons.mp isOther with rfl | further
      · exact ⟨_, List.mem_cons_self, head⟩
      · rcases inductionHypothesis further with ⟨item, isItem, itemRelated⟩
        exact ⟨item, List.mem_cons_of_mem _ isItem, itemRelated⟩

/-! ## Entries in another order -/

theorem haveDistinctKeys_of_meansEntries {entries : List (String × α)}
    (distinct : NamesDiffer members) (meant : MeansEntries means members entries) :
    HaveDistinctKeys entries := by
  induction meant with
  | nil => exact .nil
  | @cons member entry members entries head tail inductionHypothesis =>
      rcases List.pairwise_cons.mp distinct with ⟨differs, othersDistinct⟩
      refine List.pairwise_cons.mpr ⟨?_, inductionHypothesis othersDistinct⟩
      intro other isEntry sameKey
      rcases exists_of_forall₂ tail isEntry with ⟨otherMember, isMember, denotes, _⟩
      exact differs otherMember isMember _ head.1 (sameKey ▸ denotes)

theorem ofList_eq_of_perm (unique : RightUnique means) (distinct : NamesDiffer members)
    (perm : members.Perm others) {entries otherEntries : List (String × α)}
    (meant : MeansEntries means members entries)
    (otherMeant : MeansEntries means others otherEntries) :
    KeyedTable.ofList entries = KeyedTable.ofList otherEntries := by
  rcases List.perm_comp_forall₂ perm.symm meant with ⟨reordered, reorderedMeant, reorderedPerm⟩
  cases meansEntries_unique unique otherMeant reorderedMeant
  exact KeyedTable.ofList_eq_of_perm reorderedPerm.symm
    (haveDistinctKeys_of_meansEntries distinct meant)

theorem table_eq_of_perm (unique : RightUnique means) (distinct : NamesDiffer members)
    (perm : members.Perm others) {table otherTable : KeyedTable α}
    (meant : MeansTable means (.object members) table)
    (otherMeant : MeansTable means (.object others) otherTable) : table = otherTable := by
  rcases meant with ⟨_, entries, ⟨⟩, meant, rfl⟩
  rcases otherMeant with ⟨_, otherEntries, ⟨⟩, otherMeant, rfl⟩
  exact ofList_eq_of_perm unique distinct perm meant otherMeant

/-! ## Single bodies with and without brackets -/

/-- Bodies that come to the same list. -/
def SameList (bodies others : RuleBodies) : Prop := bodies.toList = others.toList

theorem meansBodies_single {written : List Char} {bodies : RuleBodies}
    (meant : MeansBodies (.list [.string written]) bodies) :
    ∃ body, Denotes written body.toList ∧ bodies = .many [body] := by
  rcases meant with _ | texts
  rcases texts with _ | ⟨⟨_, ⟨⟩, denotes⟩, ⟨⟩⟩
  exact ⟨_, denotes, rfl⟩

theorem sameList_of_sameBodies {tree other : Tree} {bodies otherBodies : RuleBodies}
    (same : SameBodies tree other) (meant : MeansBodies tree bodies)
    (otherMeant : MeansBodies other otherBodies) : SameList bodies otherBodies := by
  cases same with
  | same tree =>
      cases meansBodies_unique meant otherMeant
      rfl
  | bracketed written =>
      rcases meansBodies_single otherMeant with ⟨body, otherDenotes, rfl⟩
      rcases meant with ⟨denotes⟩
      cases denotes.string_unique otherDenotes
      rfl
  | bare written =>
      rcases meansBodies_single meant with ⟨body, denotes, rfl⟩
      rcases otherMeant with ⟨otherDenotes⟩
      cases denotes.string_unique otherDenotes
      rfl

theorem matchEntries_of_sameBodies {entries otherEntries : List (String × RuleBodies)}
    (alike : List.Forall₂ (fun entry other => entry.1 = other.1 ∧ SameBodies entry.2 other.2)
      members others)
    (meant : MeansEntries MeansBodies members entries)
    (otherMeant : MeansEntries MeansBodies others otherEntries) :
    MatchEntries SameList entries otherEntries := by
  induction alike generalizing entries otherEntries with
  | nil =>
      cases meant
      cases otherMeant
      exact .nil
  | cons head _ inductionHypothesis =>
      rcases head with ⟨sameName, sameBodies⟩
      cases meant with
      | cons meantHead meantTail =>
          cases otherMeant with
          | cons otherHead otherTail =>
              refine .cons ⟨?_, ?_⟩ (inductionHypothesis meantTail otherTail)
              · exact meantHead.1.string_unique (sameName ▸ otherHead.1)
              · exact sameList_of_sameBodies sameBodies meantHead.2 otherHead.2

theorem matchEntries_of_rearranged {reordered : List (List Char × Tree)}
    {table otherTable : KeyedTable RuleBodies} (distinct : NamesDiffer members)
    (perm : members.Perm reordered)
    (alike : List.Forall₂ (fun entry other => entry.1 = other.1 ∧ SameBodies entry.2 other.2)
      reordered others)
    (meant : MeansTable MeansBodies (.object members) table)
    (otherMeant : MeansTable MeansBodies (.object others) otherTable) :
    MatchEntries SameList table.entries otherTable.entries := by
  rcases meant with ⟨_, entries, ⟨⟩, meant, rfl⟩
  rcases otherMeant with ⟨_, otherEntries, ⟨⟩, otherMeant, rfl⟩
  rcases List.perm_comp_forall₂ perm.symm meant with ⟨reorderedEntries, reorderedMeant, _⟩
  rw [ofList_eq_of_perm meansBodies_unique distinct perm meant reorderedMeant]
  exact KeyedTable.matchEntries_ofList (matchEntries_of_sameBodies alike reorderedMeant otherMeant)

/-! ## Fields of rearranged files -/

section Fields

variable {first second : List (List Char × Tree)} {Content : Type}
  {contentMeans : Tree → Content → Prop}

theorem SameMember.sameName {member other : List Char × Tree} (same : SameMember member other) :
    member.1 = other.1 := by
  cases same <;> rfl

theorem SameUpToOrder.exists_other (same : SameUpToOrder first second) (isName : name ∈ memberNames)
    {member : List Char × Tree} (isMember : member ∈ first)
    (called : Denotes member.1 name.toList) : ∃ other ∈ second, SameMember member other := by
  rcases same with ⟨firstParts, secondParts, firstStrays, _, alike⟩
  rcases List.mem_append.mp (firstParts.mem_iff.mp isMember) with isKnown | isStray
  · rcases exists_of_forall₂ alike.flip isKnown with ⟨other, isOther, sameMember⟩
    exact ⟨other, secondParts.mem_iff.mpr (List.mem_append_left _ isOther), sameMember⟩
  · exact absurd called (firstStrays member isStray name isName)

theorem SameUpToOrder.exists_member (same : SameUpToOrder first second)
    (isName : name ∈ memberNames) {other : List Char × Tree} (isOther : other ∈ second)
    (called : Denotes other.1 name.toList) : ∃ member ∈ first, SameMember member other := by
  rcases same with ⟨firstParts, secondParts, _, secondStrays, alike⟩
  rcases List.mem_append.mp (secondParts.mem_iff.mp isOther) with isKnown | isStray
  · rcases exists_of_forall₂ alike isKnown with ⟨member, isMember, sameMember⟩
    exact ⟨member, firstParts.mem_iff.mpr (List.mem_append_left _ isMember), sameMember⟩
  · exact absurd called (secondStrays other isStray name isName)

/-- Rearranged files both lack a field, or have it from members that are the same up to order. -/
theorem givesFor_rearranged (same : SameUpToOrder first second) (isName : name ∈ memberNames)
    {value otherValue : Option Content} (gives : GivesFor name contentMeans first value)
    (otherGives : GivesFor name contentMeans second otherValue) :
    Option.Rel
      (fun content otherContent => ∃ member other, SameMember member other ∧
        Denotes member.1 name.toList ∧ contentMeans member.2 content ∧
        contentMeans other.2 otherContent)
      value otherValue := by
  cases gives with
  | none absent =>
      cases otherGives with
      | none _ => exact .none
      | some isOther called _ _ =>
          rcases same.exists_member isName isOther called with ⟨member, isMember, sameMember⟩
          exact absurd (sameMember.sameName ▸ called) (absent member isMember)
  | @some member content isMember called meant only =>
      rcases same.exists_other isName isMember called with ⟨other, isOther, sameMember⟩
      have otherCalled : Denotes other.1 name.toList := sameMember.sameName ▸ called
      cases otherGives with
      | none absent => exact absurd otherCalled (absent other isOther)
      | some _ _ otherMeant otherOnly =>
          cases otherOnly other isOther otherCalled
          exact .some ⟨member, other, sameMember, called, meant, otherMeant⟩

theorem eq_of_rel {related : Content → Content → Prop} {value otherValue : Option Content}
    (rel : Option.Rel related value otherValue)
    (same : ∀ content other, related content other → content = other) : value = otherValue := by
  cases rel with
  | none => rfl
  | some contentsRelated => rw [same _ _ contentsRelated]

/-- Members are the same as a whole unless they are called like one of the tables. -/
theorem SameMember.eq_of_called {member other : List Char × Tree} (same : SameMember member other)
    (called : Denotes member.1 name.toList) (notActions : name ≠ "actions")
    (notRules : name ≠ "rules") : member = other := by
  cases same with
  | same => rfl
  | actions isActions _ _ => exact absurd (called.string_unique isActions) notActions
  | rules isRules _ _ _ => exact absurd (called.string_unique isRules) notRules

theorem sameContent (unique : RightUnique contentMeans) (notActions : name ≠ "actions")
    (notRules : name ≠ "rules") (same : SameUpToOrder first second) (isName : name ∈ memberNames)
    {value otherValue : Option Content} (gives : GivesFor name contentMeans first value)
    (otherGives : GivesFor name contentMeans second otherValue) : value = otherValue := by
  apply eq_of_rel (givesFor_rearranged same isName gives otherGives)
  rintro content otherContent ⟨member, other, sameMember, called, meant, otherMeant⟩
  cases sameMember.eq_of_called called notActions notRules
  exact unique meant otherMeant

theorem sameActions (same : SameUpToOrder first second)
    {value otherValue : Option (KeyedTable String)}
    (gives : GivesFor "actions" (MeansTable MeansText) first value)
    (otherGives : GivesFor "actions" (MeansTable MeansText) second otherValue) :
    value = otherValue := by
  apply eq_of_rel (givesFor_rearranged same (by simp [memberNames]) gives otherGives)
  rintro table otherTable ⟨member, other, sameMember, called, meant, otherMeant⟩
  cases sameMember with
  | same => exact meansTable_unique meansText_unique meant otherMeant
  | actions _ distinct perm =>
      exact table_eq_of_perm meansText_unique distinct perm meant otherMeant
  | rules isRules _ _ _ => exact absurd (called.string_unique isRules) (by decide)

theorem matchEntries_refl (entries : List (String × RuleBodies)) :
    MatchEntries SameList entries entries :=
  List.forall₂_same.mpr fun _ _ => ⟨rfl, rfl⟩

theorem sameRules (same : SameUpToOrder first second)
    {value otherValue : Option (KeyedTable RuleBodies)}
    (gives : GivesFor "rules" (MeansTable MeansBodies) first value)
    (otherGives : GivesFor "rules" (MeansTable MeansBodies) second otherValue) :
    MatchEntries SameList (value.getD .empty).entries (otherValue.getD .empty).entries := by
  rcases givesFor_rearranged same (by simp [memberNames]) gives otherGives with
    ⟨member, other, sameMember, called, meant, otherMeant⟩ | _
  · cases sameMember with
    | same =>
        cases meansTable_unique meansBodies_unique meant otherMeant
        exact matchEntries_refl _
    | actions isActions _ _ => exact absurd (called.string_unique isActions) (by decide)
    | rules _ distinct perm alike =>
        exact matchEntries_of_rearranged distinct perm alike meant otherMeant
  · exact .nil

/-- Drafts that are filled from rearranged members agree up to brackets around single bodies. -/
theorem agree_of_fills {draft otherDraft : Draft} (same : SameUpToOrder first second)
    (fills : FillsMembers shape meanings first shape.blank draft)
    (otherFills : FillsMembers shape meanings second shape.blank otherDraft) :
    draft.actions = otherDraft.actions ∧ draft.initiator = otherDraft.initiator ∧
      MatchEntries SameList (draft.rules.getD .empty).entries
        (otherDraft.rules.getD .empty).entries ∧
      draft.parameters = otherDraft.parameters ∧ draft.seed = otherDraft.seed := by
  have gives : ∀ meaning ∈ meanings,
      GivesFor meaning.name meaning.means first (meaning.part draft) :=
    fun _ => givesFor_of_fillsMembers fitRecord fills
  have otherGives : ∀ meaning ∈ meanings,
      GivesFor meaning.name meaning.means second (meaning.part otherDraft) :=
    fun _ => givesFor_of_fillsMembers fitRecord otherFills
  have parametersUnique := meansOptional_unique (meansRecord_unique Parameters.fitRecord)
  have seedUnique := meansOptional_unique meansUnsigned_unique
  refine ⟨?_, ?_, ?_, ?_, ?_⟩
  · exact sameActions same (gives actionsMeaning (by simp [meanings]))
      (otherGives actionsMeaning (by simp [meanings]))
  · exact sameContent meansText_unique (by decide) (by decide) same (by decide)
      (gives initiatorMeaning (by simp [meanings]))
      (otherGives initiatorMeaning (by simp [meanings]))
  · exact sameRules same (gives rulesMeaning (by simp [meanings]))
      (otherGives rulesMeaning (by simp [meanings]))
  · exact sameContent parametersUnique (by decide) (by decide) same (by decide)
      (gives parametersMeaning (by simp [meanings]))
      (otherGives parametersMeaning (by simp [meanings]))
  · exact sameContent seedUnique (by decide) (by decide) same (by decide)
      (gives seedMeaning (by simp [meanings])) (otherGives seedMeaning (by simp [meanings]))

end Fields

/-! ## Rearranged files -/

theorem complete_eq_ok {draft : Draft} {file : GrammarFile}
    (complete : shape.complete draft = .ok file) :
    draft.actions = some file.actions ∧ draft.initiator = some file.initiator ∧
      file.rules = draft.rules.getD .empty ∧ file.parameters = draft.parameters.join ∧
      file.seed = draft.seed.join := by
  rcases draft with ⟨_ | actions, _ | initiator, rules, parameters, seed⟩ <;> cases complete
  exact ⟨rfl, rfl, rfl, rfl, rfl⟩

theorem addRules_congr (grammar : Grammar) {entries others : List (String × RuleBodies)}
    (alike : MatchEntries SameList entries others) :
    addRules grammar entries = addRules grammar others := by
  induction alike generalizing grammar with
  | nil => rfl
  | @cons entry other entries others head _ inductionHypothesis =>
      rcases entry with ⟨key, bodies⟩
      rcases other with ⟨otherKey, otherBodies⟩
      have sameKey : key = otherKey := head.1
      have sameTexts : bodies.toList = otherBodies.toList := head.2
      simp only [addRules, sameKey, sameTexts]
      split
      · rfl
      · exact inductionHypothesis _

/-- Of the rules, building looks at nothing but the lists of bodies. -/
theorem build_congr {file other : GrammarFile} (actions : file.actions = other.actions)
    (initiator : file.initiator = other.initiator)
    (rules : MatchEntries SameList file.rules.entries other.rules.entries)
    (parameters : file.parameters = other.parameters) (seed : file.seed = other.seed) :
    file.build = other.build := by
  have sameRules : ∀ grammar : Grammar,
      addRules grammar file.rules.entries = addRules grammar other.rules.entries :=
    fun grammar => addRules_congr grammar rules
  unfold build apply addTo placeTurtle setSeed
  rw [actions, initiator, parameters, seed]
  simp only [sameRules]

/--
Two object texts that are read as grammar files are built alike, or refused for the same key,
if they differ only in the order of members and of the entries of actions and rules, in members
that are not asked for, and in brackets around single bodies. So all that is drawn of them is
the same as well.
-/
theorem build_eq_of_sameUpToOrder {first second : String} {members others : List (List Char × Tree)}
    {file other : GrammarFile} (isFirst : IsTextOf first (.object members))
    (isSecond : IsTextOf second (.object others)) (same : SameUpToOrder members others)
    (firstRead : ofText first = .ok file) (secondRead : ofText second = .ok other) :
    file.build = other.build ∧
      ∀ {δ : Type} [Device δ] (style : DocumentStyle) (rounds : Int) (channel : Channel δ),
        (file.build.map fun built => style.render built.1 built.2 rounds channel) =
          other.build.map fun built => style.render built.1 built.2 rounds channel := by
  rcases means_of_ofText isFirst firstRead with ⟨fills, complete⟩
  rcases means_of_ofText isSecond secondRead with ⟨otherFills, otherComplete⟩
  rcases agree_of_fills same fills otherFills with
    ⟨actions, initiator, rules, parameters, seed⟩
  rcases complete_eq_ok complete with ⟨isActions, isInitiator, isRules, isParameters, isSeed⟩
  rcases complete_eq_ok otherComplete with
    ⟨otherActions, otherInitiator, otherRules, otherParameters, otherSeed⟩
  have builtAlike : file.build = other.build := by
    apply build_congr
    · exact Option.some.inj (isActions.symm.trans (actions.trans otherActions))
    · exact Option.some.inj (isInitiator.symm.trans (initiator.trans otherInitiator))
    · rw [isRules, otherRules]
      exact rules
    · rw [isParameters, otherParameters, parameters]
    · rw [isSeed, otherSeed, seed]
  refine ⟨builtAlike, ?_⟩
  intro δ _ style rounds channel
  rw [builtAlike]

section Turned

def plainText : String :=
  "\x7b\"axiom\":\"F\",\"actions\":\x7b\"F\":\"Forward\",\"+\":\"TurnLeft\"\x7d," ++
    "\"rules\":\x7b\"F\":\"F+F\"\x7d\x7d"

/-- The same from back to front, with a note that nobody asks for. -/
def turnedText : String :=
  "\x7b\"note\":null,\"rules\":\x7b\"F\":[\"F+F\"]\x7d," ++
    "\"actions\":\x7b\"+\":\"TurnLeft\",\"F\":\"Forward\"\x7d,\"axiom\":\"F\"\x7d"

def forwardEntry : List Char × Tree := ("F".toList, .string "Forward".toList)

def leftEntry : List Char × Tree := ("+".toList, .string "TurnLeft".toList)

def initiatorMember : List Char × Tree := ("axiom".toList, .string "F".toList)

def noteMember : List Char × Tree := ("note".toList, .null)

def actionsMember (entries : List (List Char × Tree)) : List Char × Tree :=
  ("actions".toList, .object entries)

def rulesMember (bodies : Tree) : List Char × Tree :=
  ("rules".toList, .object [("F".toList, bodies)])

def bodyTree : Tree := .string "F+F".toList

def plainMembers : List (List Char × Tree) :=
  [initiatorMember, actionsMember [forwardEntry, leftEntry], rulesMember bodyTree]

def turnedMembers : List (List Char × Tree) :=
  [noteMember, rulesMember (.list [bodyTree]), actionsMember [leftEntry, forwardEntry],
    initiatorMember]

theorem noBlanks : AreBlank [] := List.forall_mem_nil _

theorem spells_string {written : List Char} (plain : written.all (IsPlain ·)) :
    Spells ('"' :: (written ++ ['"'])) (.value (.string written)) :=
  .string (isWritten_of_plain plain)

/-- Members without blanks between their parts. -/
theorem spells_member {body rest written : List Char} {isFirst : Bool} {tree : Tree}
    (plain : written.all (IsPlain ·)) (value : Spells body (.value tree))
    (further : Spells rest (.members false others)) :
    Spells (separator isFirst ++ '"' :: (written ++ '"' :: ':' :: (body ++ rest)))
      (.members isFirst ((written, tree) :: others)) :=
  .member noBlanks noBlanks (isWritten_of_plain plain) noBlanks noBlanks value further

theorem isTextOf_plain : IsTextOf plainText (.object plainMembers) := by
  have actions : Spells _ (.value (.object [forwardEntry, leftEntry])) :=
    .object (spells_member rfl (spells_string rfl)
      (spells_member rfl (spells_string rfl) (.noMember noBlanks)))
  have rules : Spells _ (.value (.object [("F".toList, bodyTree)])) :=
    .object (spells_member rfl (spells_string rfl) (.noMember noBlanks))
  have whole : Spells _ (.value (.object plainMembers)) :=
    .object (spells_member rfl (spells_string rfl)
      (spells_member rfl actions
        (spells_member rfl rules (.noMember noBlanks))))
  exact .mk noBlanks whole noBlanks (by decide +kernel)

theorem isTextOf_turned : IsTextOf turnedText (.object turnedMembers) := by
  have body : Spells _ (.value (.list [bodyTree])) :=
    .list (.element noBlanks noBlanks (spells_string rfl) (.noElement noBlanks))
  have rules : Spells _ (.value (.object [("F".toList, .list [bodyTree])])) :=
    .object (spells_member rfl body (.noMember noBlanks))
  have actions : Spells _ (.value (.object [leftEntry, forwardEntry])) :=
    .object (spells_member rfl (spells_string rfl)
      (spells_member rfl (spells_string rfl) (.noMember noBlanks)))
  have whole : Spells _ (.value (.object turnedMembers)) :=
    .object (spells_member rfl .null
      (spells_member rfl rules
        (spells_member rfl actions
          (spells_member rfl (spells_string rfl) (.noMember noBlanks)))))
  exact .mk noBlanks whole noBlanks (by decide +kernel)

theorem sameUpToOrder_turned : SameUpToOrder plainMembers turnedMembers := by
  have distinct : NamesDiffer [forwardEntry, leftEntry] := by
    refine .cons ?_ (List.pairwise_singleton _ _)
    intro other isOther text called otherCalled
    cases List.mem_singleton.mp isOther
    cases called.unique (denotes_of_plain rfl)
    cases otherCalled.unique (denotes_of_plain rfl)
  have stray : IsStray noteMember.1 := by
    intro name isName called
    have isNote : name = "note" := called.string_unique (denotes_of_plain rfl)
    rw [isNote] at isName
    exact absurd isName (by decide)
  have actions : SameMember (actionsMember [forwardEntry, leftEntry])
      (actionsMember [leftEntry, forwardEntry]) :=
    .actions (denotes_of_plain rfl) distinct (.swap _ _ _)
  have rules : SameMember (rulesMember bodyTree) (rulesMember (.list [bodyTree])) :=
    .rules (denotes_of_plain rfl) (List.pairwise_singleton _ _) (.refl _)
      (.cons ⟨rfl, .bracketed _⟩ .nil)
  have turned : turnedMembers.Perm
      ([initiatorMember, actionsMember [leftEntry, forwardEntry], rulesMember (.list [bodyTree])] ++
        [noteMember]) :=
    List.reverse_perm [initiatorMember, actionsMember [leftEntry, forwardEntry],
      rulesMember (.list [bodyTree]), noteMember]
  apply SameUpToOrder.intro (List.Perm.of_eq (List.append_nil _).symm) turned
    (List.forall_mem_nil _) (List.forall_mem_singleton.mpr stray)
  exact .cons (.same _) (.cons actions (.cons rules .nil))

theorem exists_of_isOk {text : String} (read : (ofText text).isOk) :
    ∃ file, ofText text = .ok file := by
  cases outcome : ofText text with
  | ok file => exact ⟨file, rfl⟩
  | error _ =>
      rw [outcome] at read
      cases read

theorem build_eq_of_sameUpToOrder_turned :
    ∃ file other, ofText plainText = .ok file ∧ ofText turnedText = .ok other ∧
      IsTextOf plainText (.object plainMembers) ∧ IsTextOf turnedText (.object turnedMembers) ∧
      SameUpToOrder plainMembers turnedMembers ∧ file.build = other.build := by
  rcases exists_of_isOk (show (ofText plainText).isOk by decide +kernel) with ⟨file, read⟩
  rcases exists_of_isOk (show (ofText turnedText).isOk by decide +kernel) with ⟨other, otherRead⟩
  have built := build_eq_of_sameUpToOrder isTextOf_plain isTextOf_turned sameUpToOrder_turned read
    otherRead
  exact ⟨file, other, read, otherRead, isTextOf_plain, isTextOf_turned, sameUpToOrder_turned,
    built.1⟩

end Turned

end GrammarFile

end Lindenmayer
