import Lindenmayer.Proofs.Document.Completeness

/-!
# After the first fault

When something has gone wrong for the first time, the header, the trailer and flushing end
the matter: nothing more is offered to the device, and this fault is reported. A path
command that cannot be written does not. No further command is written after it, but the
trailer is; and if the trailer fails as well, its fault is reported and the first one is
lost.
-/

namespace Lindenmayer

namespace DeviceEvent

section FirstFault

variable {events before after : List DeviceEvent} {fault : Fault}

/-- Nothing but the events decides where the first fault is. -/
theorem FirstFault.unique {otherBefore otherAfter : List DeviceEvent} {otherFault : Fault}
    (first : FirstFault events before fault after)
    (other : FirstFault events otherBefore otherFault otherAfter) :
    before = otherBefore ∧ fault = otherFault ∧ after = otherAfter := by
  rcases first with ⟨⟨event, rfl, broken⟩, well⟩
  rcases other with ⟨⟨otherEvent, same, otherBroken⟩, otherWell⟩
  induction before generalizing otherBefore with
  | nil =>
      cases otherBefore with
      | nil =>
          rcases List.cons.inj same with ⟨rfl, rfl⟩
          exact ⟨rfl, Option.some.inj (broken.symm.trans otherBroken), rfl⟩
      | cons earlier rest =>
          rcases List.cons.inj same with ⟨rfl, _⟩
          simp [otherWell event (by simp)] at broken
  | cons earlier rest inductionHypothesis =>
      cases otherBefore with
      | nil =>
          rcases List.cons.inj same with ⟨rfl, _⟩
          simp [well earlier (by simp)] at otherBroken
      | cons otherEarlier otherRest =>
          rcases List.cons.inj same with ⟨rfl, sameRest⟩
          have restWell : ∀ event ∈ rest, event.fault? = none :=
            fun event eventMem => well event (List.mem_cons_of_mem _ eventMem)
          have otherRestWell : ∀ event ∈ otherRest, event.fault? = none :=
            fun event eventMem => otherWell event (List.mem_cons_of_mem _ eventMem)
          rcases inductionHypothesis restWell otherRestWell sameRest with
            ⟨rfl, sameFault, sameAfter⟩
          exact ⟨rfl, sameFault, sameAfter⟩

theorem FirstFault.prepend (first : FirstFault events before fault after)
    {earlier : List DeviceEvent} (earlierWell : ∀ event ∈ earlier, event.fault? = none) :
    FirstFault (earlier ++ events) (earlier ++ before) fault after := by
  rcases first with ⟨⟨event, rfl, broken⟩, well⟩
  refine ⟨⟨event, (List.append_assoc _ _ _).symm, broken⟩, ?_⟩
  intro other otherMem
  exact (List.mem_append.mp otherMem).elim (earlierWell other) (well other)

theorem FirstFault.append (first : FirstFault events before fault after)
    (later : List DeviceEvent) : FirstFault (events ++ later) before fault (after ++ later) := by
  rcases first with ⟨⟨event, rfl, broken⟩, well⟩
  exact ⟨⟨event, by simp, broken⟩, well⟩

theorem BreaksOff.exists_firstFault {texts : List String}
    (breaksOff : BreaksOff texts events fault) :
    ∃ before, before.length < texts.length ∧ FirstFault events before fault [] := by
  rcases breaksOff with ⟨before, text, rest, count⟩
  refine ⟨before.map ofTaken, by simp, ⟨⟨_, rfl, rfl⟩, ?_⟩⟩
  intro event eventMem
  exact fault?_of_mem_map_ofTaken eventMem

theorem exists_firstFault_of_map {count : Nat} {later : List (Option Fault)}
    (faults : events.map fault? = .replicate count none ++ some fault :: later) :
    ∃ before after, FirstFault events before fault after ∧ after.length = later.length := by
  rcases List.map_eq_append_iff.mp faults with ⟨before, rest, rfl, beforeWell, restFaults⟩
  rcases List.map_eq_cons_iff.mp restFaults with ⟨event, after, rfl, broken, laterFaults⟩
  refine ⟨before, after, ⟨⟨event, rfl, broken⟩, ?_⟩, by simp [← laterFaults]⟩
  intro earlier earlierMem
  have none := List.mem_map_of_mem (f := fault?) earlierMem
  rw [beforeWell] at none
  exact List.eq_of_mem_replicate none

end FirstFault

end DeviceEvent

namespace DocumentStyle

/-- Whether what comes next after so many lines is a line of the body. -/
def WithinBody (header body : List String) (before : List DeviceEvent) : Prop :=
  header.length ≤ before.length ∧ before.length < header.length + body.length

section Courses

variable {header body trailer : List String} {events before after : List DeviceEvent}
  {fault : Fault} {outcome : Except Fault Unit}

/-- What follows the first fault, and what is reported, by the place of the fault. -/
theorem Course.after_first_fault (course : Course header body trailer events outcome)
    (first : DeviceEvent.FirstFault events before fault after) :
    (¬ WithinBody header body before ∧ after = [] ∧ outcome = .error fault) ∨
    (WithinBody header body before ∧
      ((after = trailer.map .ofTaken ∧ outcome = .error fault) ∨
        ∃ last, DeviceEvent.BreaksOff trailer after last ∧ outcome = .error last)) := by
  have headerWell : ∀ event ∈ header.map DeviceEvent.ofTaken, event.fault? = none :=
    fun _ eventMem => DeviceEvent.fault?_of_mem_map_ofTaken eventMem
  cases course with
  | complete =>
      rcases first.split with ⟨event, split, broken⟩
      have eventMem : event ∈ before ++ event :: after := by simp
      rw [← split] at eventMem
      rw [Course.complete.outcome_eq_ok_iff.mp rfl event eventMem] at broken
      simp at broken
  | headerBreaks breaksOff =>
      rcases breaksOff.exists_firstFault with ⟨place, short, headerFirst⟩
      rcases first.unique headerFirst with ⟨rfl, rfl, rfl⟩
      refine .inl ⟨?_, rfl, rfl⟩
      rintro ⟨atLeast, _⟩
      omega
  -- Only after a broken body does anything follow the first fault.
  | bodyBreaks breaksOff =>
      rcases breaksOff.exists_firstFault with ⟨place, short, bodyFirst⟩
      rcases first.unique ((bodyFirst.prepend headerWell).append _) with ⟨rfl, rfl, rfl⟩
      refine .inr ⟨?_, .inl ⟨rfl, rfl⟩⟩
      simp only [WithinBody, List.length_append, List.length_map]
      omega
  | bodyAndTrailerBreak bodyBreaksOff trailerBreaksOff =>
      rcases bodyBreaksOff.exists_firstFault with ⟨place, short, bodyFirst⟩
      rcases first.unique ((bodyFirst.prepend headerWell).append _) with ⟨rfl, rfl, rfl⟩
      refine .inr ⟨?_, .inr ⟨_, trailerBreaksOff, rfl⟩⟩
      simp only [WithinBody, List.length_append, List.length_map]
      omega
  | trailerBreaks breaksOff =>
      rcases breaksOff.exists_firstFault with ⟨place, short, trailerFirst⟩
      rcases first.unique (trailerFirst.prepend
        fun _ eventMem => DeviceEvent.fault?_of_mem_map_ofTaken eventMem) with ⟨rfl, rfl, rfl⟩
      refine .inl ⟨?_, rfl, rfl⟩
      simp only [WithinBody, List.length_append, List.length_map]
      omega
  | flushFails problem =>
      have flushFirst : DeviceEvent.FirstFault [.flush (.error problem)] [] problem [] :=
        ⟨⟨_, rfl, rfl⟩, by simp⟩
      rcases first.unique (flushFirst.prepend
        fun _ eventMem => DeviceEvent.fault?_of_mem_map_ofTaken eventMem) with ⟨rfl, rfl, rfl⟩
      refine .inl ⟨?_, rfl, rfl⟩
      simp only [WithinBody, List.length_append, List.length_map]
      omega

/-- The trailer is never without lines, so offering it leaves a trace. -/
theorem ne_nil_of_trailer {box : Box}
    (offered : after = (Document.trailerLines box).map .ofTaken ∨
      ∃ fault, DeviceEvent.BreaksOff (Document.trailerLines box) after fault) : after ≠ [] := by
  rcases offered with rfl | ⟨fault, breaksOff⟩
  · simp [Document.trailerLines]
  · rcases breaksOff.exists_fault with ⟨event, eventMem, _⟩
    exact List.ne_nil_of_mem eventMem

end Courses

variable {τ δ : Type} [Turtle τ] [Device δ]

/--
When a document has passed the checks and something goes wrong with the device, nothing
more is offered to it and the first fault is reported, just if the fault is not that of a
path command. After a path command that could not be written, only lines of the trailer are
offered; the first fault is reported if they are taken, and the one of the trailer if not.
-/
theorem render_stops_iff_not_withinBody (style : DocumentStyle) (grammar : Grammar) (start : τ)
    (rounds : Int) (channel : Channel δ) (someRounds : 0 ≤ rounds)
    (known : ∀ symbol ∈ grammar.alphabet.symbols, ∀ name ∈ grammar.action? symbol,
      (style.vocabulary.resolve? name).isSome) :
    let run := style.render grammar start rounds channel.recorded
    style.render grammar start rounds channel = (run.1, run.2.unrecorded) ∧
    ∃ drawn,
      grammar.renderInitiator (style.drawingTurtle start (#[] : Array PathCommand)) rounds =
        .ok drawn ∧
      ∀ before fault after, DeviceEvent.FirstFault run.2.device.events before fault after →
        let isCommand := WithinBody style.header (body drawn.turtle.finish.toList) before
        let trailer := Document.trailerLines drawn.box
        ((after = [] ∧ run.1 = .error (.output fault)) ↔ ¬ isCommand) ∧
        (isCommand →
          (after = trailer.map .ofTaken ∧ run.1 = .error (.output fault)) ∨
          ∃ last, DeviceEvent.BreaksOff trailer after last ∧
            run.1 = .error (.output last)) := by
  intro run
  rcases style.exists_course grammar start someRounds known channel with
    ⟨drawn, _, outcome, last, drawnRendered, _, _, _, ran, unrecorded, course⟩
  change run = _ at ran
  refine ⟨by rw [ran, unrecorded], drawn, drawnRendered, ?_⟩
  rw [ran]
  intro before fault after first isCommand trailer
  rcases course.after_first_fault first with
    ⟨elsewhere, stopped, rfl⟩ | ⟨within, goesOn⟩
  · refine ⟨?_, fun within => absurd within elsewhere⟩
    simp [elsewhere, stopped, report, isCommand]
  · have offered := ne_nil_of_trailer (goesOn.imp And.left (Exists.imp fun _ => And.left))
    refine ⟨?_, fun _ => ?_⟩
    · simp [offered, within, isCommand]
    · rcases goesOn with ⟨trailerOffered, rfl⟩ | ⟨last, breaksOff, rfl⟩
      · exact .inl ⟨trailerOffered, rfl⟩
      · exact .inr ⟨last, breaksOff, rfl⟩

def brackets : List GrammarEdit :=
  [.setAction '[' "push", .setAction ']' "pop", .setInitiator "[]"]

/-- A disk that is full in the middle of the first path command and has room again later. -/
def smallDisk : LimitedDisk := ⟨some 109, true, none⟩

/-- After the fault three lines are offered, and taken. -/
theorem fault?_events_render_smallDisk :
    ((ofTitle "t").render (.ofEdits brackets) SilentTurtle.standard 0
      (Channel.ofDevice smallDisk).recorded).2.device.events.map DeviceEvent.fault? =
        .replicate 5 none ++ some LimitedDisk.full :: .replicate 3 none := by
  decide +kernel

theorem render_smallDisk_goes_on :
    let run := (ofTitle "t").render (.ofEdits brackets) SilentTurtle.standard 0
      (Channel.ofDevice smallDisk).recorded
    ∃ before after, DeviceEvent.FirstFault run.2.device.events before LimitedDisk.full after ∧
      after ≠ [] := by
  rcases DeviceEvent.exists_firstFault_of_map fault?_events_render_smallDisk with
    ⟨before, after, first, three⟩
  refine ⟨before, after, first, ?_⟩
  rintro rfl
  simp at three

theorem render_stops_iff_not_withinBody_smallDisk :
    let style := ofTitle "t"
    let grammar := Grammar.ofEdits brackets
    let run := style.render grammar SilentTurtle.standard 0 (Channel.ofDevice smallDisk).recorded
    ∃ drawn before after,
      grammar.renderInitiator
        (style.drawingTurtle SilentTurtle.standard (#[] : Array PathCommand)) 0 = .ok drawn ∧
      DeviceEvent.FirstFault run.2.device.events before LimitedDisk.full after ∧
      WithinBody style.header (body drawn.turtle.finish.toList) before ∧
      ((after = (Document.trailerLines drawn.box).map .ofTaken ∧
          run.1 = .error (.output LimitedDisk.full)) ∨
        ∃ last, DeviceEvent.BreaksOff (Document.trailerLines drawn.box) after last ∧
          run.1 = .error (.output last)) := by
  intro style grammar
  have known : ∀ symbol ∈ grammar.alphabet.symbols, ∀ name ∈ grammar.action? symbol,
      (style.vocabulary.resolve? name).isSome := by decide
  have faults := fault?_events_render_smallDisk
  rcases style.render_stops_iff_not_withinBody grammar SilentTurtle.standard 0
    (.ofDevice smallDisk) (by decide) known with ⟨_, drawn, rendered, stops⟩
  -- As long as the run is a mere name it is not evaluated.
  generalize
    style.render grammar SilentTurtle.standard 0 (Channel.ofDevice smallDisk).recorded = run
    at faults stops
  rcases DeviceEvent.exists_firstFault_of_map faults with ⟨before, after, first, three⟩
  rcases stops before _ after first with ⟨stopsIff, goesOn⟩
  have within : WithinBody style.header (body drawn.turtle.finish.toList) before := by
    apply Classical.byContradiction
    intro elsewhere
    rcases stopsIff.mpr elsewhere with ⟨rfl, _⟩
    simp at three
  exact ⟨drawn, before, after, rendered, first, within, goesOn within⟩

end DocumentStyle

end Lindenmayer
