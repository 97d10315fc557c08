import Lindenmayer.Document.Outlet
import Lindenmayer.Proofs.Document.Composition

/-!
# The first failure is kept

What is asked of an outlet while path commands are sent to a writer and the writer is
finished. Either no write fails, all lines are taken and the outlet is flushed once; or the
writes break off at the first that fails, somewhere within a line, and the outlet is not
asked for anything again, however much is sent afterwards and however willing the outlet
would be. Interruptions count for nothing: a write that is interrupted is no failure, it is
made again with the same bytes.

A transcript says this of each layer in the same words, of a line written in parts and of a
part written in several writes, and transcripts of bytes written one after the other are
joined by one lemma.
-/

namespace Lindenmayer

namespace OutletEvent

variable {events front : List OutletEvent} {event : OutletEvent} {bytes part rest : ByteArray}
  {reception : Reception} {fault : Fault}

theorem allTaken_append (front back : List OutletEvent) :
    allTaken (front ++ back) = allTaken front ++ allTaken back := by
  induction front with
  | nil => exact ByteArray.empty_append.symm
  | cons event rest inductionHypothesis =>
      rw [List.cons_append, allTaken, inductionHypothesis, allTaken, ByteArray.append_assoc]

theorem allTaken_singleton (event : OutletEvent) : allTaken [event] = event.taken :=
  ByteArray.append_empty

/-- A write that fails takes nothing. -/
theorem taken_of_writeFault? (failed : event.writeFault? = some fault) :
    event.taken = ByteArray.empty := by
  rcases event with ⟨bytes, (_ | more) | _ | problem⟩ | outcome
  · exact ByteArray.extract_same
  · simp [writeFault?] at failed
  · simp [writeFault?] at failed
  · rfl
  · simp [writeFault?] at failed

theorem allTaken_concat_of_writeFault? (failed : event.writeFault? = some fault) :
    allTaken (events ++ [event]) = allTaken events := by
  rw [allTaken_append, allTaken_singleton, taken_of_writeFault? failed, ByteArray.append_empty]

theorem GoesOn.writeFault?_eq_none (goesOn : event.GoesOn) : event.writeFault? = none := by
  rcases event with ⟨bytes, (_ | more) | _ | problem⟩ | outcome <;> simp_all [GoesOn, writeFault?]

/-- Of writes that have not failed and one more event, only this one can have failed. -/
theorem eq_of_mem_concat_of_writeFault? {writes : List OutletEvent} {last : OutletEvent}
    (goOn : ∀ event ∈ writes, event.GoesOn) (eventMem : event ∈ writes ++ [last])
    (failed : event.writeFault? = some fault) : event = last := by
  rcases List.mem_append.mp eventMem with earlier | atEnd
  · rw [(goOn event earlier).writeFault?_eq_none] at failed
    cases failed
  · exact List.mem_singleton.mp atEnd

theorem repeatsInterrupted_nil : RepeatsInterrupted [] := by
  simp [RepeatsInterrupted]

theorem repeatsInterrupted_flush (outcome : Except Fault Unit) :
    RepeatsInterrupted [.flush outcome] := by
  simp [RepeatsInterrupted, List.getElem?_singleton]

theorem RepeatsInterrupted.append {back : List OutletEvent} (repeats : RepeatsInterrupted front)
    (backRepeats : RepeatsInterrupted back) : RepeatsInterrupted (front ++ back) := by
  intro place bytes found
  by_cases inside : place < front.length
  · rw [List.getElem?_append_left inside] at found
    rcases repeats place bytes found with ⟨outcome, next⟩
    have nextInside : place + 1 < front.length := (List.getElem?_eq_some_iff.mp next).1
    refine ⟨outcome, ?_⟩
    rwa [List.getElem?_append_left nextInside]
  · rw [List.getElem?_append_right (Nat.le_of_not_lt inside)] at found
    rcases backRepeats _ bytes found with ⟨outcome, next⟩
    refine ⟨outcome, ?_⟩
    rwa [List.getElem?_append_right (by omega), Nat.sub_add_comm (Nat.le_of_not_lt inside)]

/-- A write that is interrupted a number of times before something else comes of it. -/
def insisted (bytes : ByteArray) (interruptions : Nat) (outcome : WriteOutcome) :
    List OutletEvent :=
  List.replicate interruptions (.write bytes .interrupted) ++ [.write bytes outcome]

section Insisted

variable {interruptions : Nat} {outcome : WriteOutcome}

theorem insisted_succ : insisted bytes (interruptions + 1) outcome =
    .write bytes .interrupted :: insisted bytes interruptions outcome :=
  rfl

theorem getElem?_insisted_zero :
    ∃ first, (insisted bytes interruptions outcome)[0]? = some (.write bytes first) := by
  cases interruptions with
  | zero => exact ⟨outcome, rfl⟩
  | succ fewer => exact ⟨.interrupted, rfl⟩

theorem goesOn_of_mem_replicate {count : Nat}
    (eventMem : event ∈ List.replicate count (.write bytes .interrupted)) : event.GoesOn := by
  rw [List.eq_of_mem_replicate eventMem]
  trivial

theorem allTaken_replicate (count : Nat) :
    allTaken (List.replicate count (.write bytes .interrupted)) = ByteArray.empty := by
  induction count with
  | zero => rfl
  | succ fewer inductionHypothesis =>
      rw [List.replicate_succ, allTaken, inductionHypothesis]
      rfl

theorem repeatsInterrupted_insisted (ends : outcome ≠ .interrupted) :
    RepeatsInterrupted (insisted bytes interruptions outcome) := by
  induction interruptions with
  | zero =>
      intro place offered found
      simp [insisted, List.getElem?_singleton, ends] at found
  | succ fewer inductionHypothesis =>
      rw [insisted_succ]
      rintro (_ | place) offered found
      · cases found
        exact getElem?_insisted_zero
      · exact inductionHypothesis place offered found

end Insisted

/-- What has come of a write in the end. -/
def finalOutcome : Except Fault Nat → WriteOutcome
  | .ok count => .took count
  | .error fault => .failed fault

theorem finalOutcome_ne (result : Except Fault Nat) : finalOutcome result ≠ .interrupted := by
  cases result <;> simp [finalOutcome]

/-- A write that has not been interrupted takes something or fails. -/
theorem finalOutcome_cases (bytes : ByteArray) (result : Except Fault Nat) :
    (∃ fault, (write bytes (finalOutcome result)).writeFault? = some fault) ∨
      ∃ count, result = .ok count ∧ 0 < count := by
  rcases result with fault | _ | more
  · exact .inl ⟨fault, rfl⟩
  · exact .inl ⟨.nothingTaken, rfl⟩
  · exact .inr ⟨more + 1, rfl, Nat.succ_pos more⟩

/--
Whether events are what comes of writing bytes: each write takes some of them or is interrupted
and made again, up to the end or up to a write that fails before it.
-/
inductive Transcribes : (bytes : ByteArray) → List OutletEvent → Reception → Prop
  | taken (events : List OutletEvent) (goOn : ∀ event ∈ events, event.GoesOn)
      (repeats : RepeatsInterrupted events) : Transcribes (allTaken events) events .taken
  | cut (events : List OutletEvent) (goOn : ∀ event ∈ events, event.GoesOn)
      (failed : OutletEvent) (fault : Fault) (fails : failed.writeFault? = some fault)
      (repeats : RepeatsInterrupted (events ++ [failed])) (rest : ByteArray)
      (some : rest.size ≠ 0) :
      Transcribes (allTaken events ++ rest) (events ++ [failed])
        (.cut (allTaken events).size fault)

namespace Transcribes

theorem ofEmpty (empty : bytes.size = 0) : Transcribes bytes [] .taken := by
  rw [ByteArray.size_eq_zero_iff.mp empty]
  exact .taken [] (by simp) repeatsInterrupted_nil

theorem ofFault {outcome : WriteOutcome} (ends : outcome ≠ .interrupted)
    (fails : (write bytes outcome).writeFault? = some fault) (some : bytes.size ≠ 0)
    (interruptions : Nat) :
    Transcribes bytes (insisted bytes interruptions outcome) (.cut 0 fault) := by
  have transcribes := Transcribes.cut (List.replicate interruptions (.write bytes .interrupted))
    (fun event => goesOn_of_mem_replicate) _ fault fails (repeatsInterrupted_insisted ends)
    bytes some
  rwa [allTaken_replicate, ByteArray.empty_append] at transcribes

theorem ofTaking {count : Nat} (positive : 0 < count) (interruptions : Nat) :
    Transcribes (bytes.extract 0 count) (insisted bytes interruptions (.took count)) .taken := by
  have goOn : ∀ event ∈ insisted bytes interruptions (.took count), event.GoesOn := by
    rw [insisted, List.forall_mem_append, List.forall_mem_singleton]
    exact ⟨fun event => goesOn_of_mem_replicate, positive⟩
  have transcribes := Transcribes.taken _ goOn (repeatsInterrupted_insisted (by simp))
  rwa [insisted, allTaken_append, allTaken_replicate, ByteArray.empty_append,
    allTaken_singleton] at transcribes

/-- Bytes that have all been taken are followed by others. -/
theorem andThen (first : Transcribes part front .taken) (second : Transcribes rest events reception) :
    Transcribes (part ++ rest) (front ++ events) (reception.after part.size) := by
  rcases first with ⟨_, frontGoesOn, frontRepeats⟩ | _
  rcases second with ⟨_, goOn, repeats⟩ | ⟨events, goOn, failed, fault, fails, repeats, rest, some⟩
  · rw [← allTaken_append]
    exact .taken _ (List.forall_mem_append.mpr ⟨frontGoesOn, goOn⟩) (frontRepeats.append repeats)
  · have joined := frontRepeats.append repeats
    rw [← List.append_assoc] at joined
    have transcribes := Transcribes.cut (front ++ events)
      (List.forall_mem_append.mpr ⟨frontGoesOn, goOn⟩) failed fault fails joined rest some
    rwa [allTaken_append, ByteArray.size_append, ByteArray.append_assoc, List.append_assoc]
      at transcribes

/-- After a write that has failed nothing is written, whatever there would be. -/
theorem append_of_cut {count : Nat} (transcribes : Transcribes part events (.cut count fault))
    (rest : ByteArray) : Transcribes (part ++ rest) events (.cut count fault) := by
  rcases transcribes with _ | ⟨events, goOn, failed, fault, fails, repeats, remainder, some⟩
  rw [ByteArray.append_assoc]
  refine .cut events goOn failed fault fails repeats _ ?_
  rw [ByteArray.size_append]
  omega

theorem eq_allTaken (transcribes : Transcribes bytes events .taken) : bytes = allTaken events := by
  cases transcribes
  rfl

theorem goesOn (transcribes : Transcribes bytes events .taken) :
    ∀ event ∈ events, event.GoesOn := by
  cases transcribes
  assumption

theorem repeatsInterrupted (transcribes : Transcribes bytes events reception) :
    RepeatsInterrupted events := by
  cases transcribes <;> assumption

/-- The first bytes that are said to have been taken are those that have been taken. -/
theorem extract_eq_allTaken {count : Nat}
    (transcribes : Transcribes bytes events (.cut count fault)) :
    bytes.extract 0 count = allTaken events := by
  rcases transcribes with _ | ⟨events, goOn, failed, fault, fails, repeats, rest, some⟩
  rw [ByteArray.extract_append_eq_left rfl, allTaken_concat_of_writeFault? fails]

end Transcribes

/--
Texts are written one after the other up to a write that fails, and nothing is asked for after it.
At least one byte of the text that is being written is not taken.
-/
inductive BreaksOff : (texts : List String) → List OutletEvent → Fault → Prop
  | mk (before : List String) (text : String) (after : List String) (writes : List OutletEvent)
      (goOn : ∀ event ∈ writes, event.GoesOn) (failed : OutletEvent) (fault : Fault)
      (fails : failed.writeFault? = some fault)
      (repeats : RepeatsInterrupted (writes ++ [failed])) (part rest : ByteArray)
      (split : text.toUTF8 = part ++ rest) (some : rest.size ≠ 0)
      (taken : allTaken writes = (String.join before).toUTF8 ++ part) :
      BreaksOff (before ++ text :: after) (writes ++ [failed]) fault

theorem BreaksOff.repeatsInterrupted {texts : List String}
    (breaksOff : BreaksOff texts events fault) : RepeatsInterrupted events := by
  cases breaksOff
  assumption

theorem BreaksOff.ofCut {text : String} {count : Nat}
    (transcribes : Transcribes text.toUTF8 events (.cut count fault)) (after : List String) :
    BreaksOff (text :: after) events fault := by
  generalize offered : text.toUTF8 = bytes at transcribes
  rcases transcribes with _ | ⟨writes, goOn, failed, fault, fails, repeats, rest, some⟩
  exact .mk [] text after writes goOn failed fault fails repeats _ rest offered some
    ByteArray.empty_append.symm

theorem BreaksOff.cons {text : String} {texts : List String}
    (transcribes : Transcribes text.toUTF8 front .taken) (breaksOff : BreaksOff texts events fault) :
    BreaksOff (text :: texts) (front ++ events) fault := by
  have joined := transcribes.repeatsInterrupted.append breaksOff.repeatsInterrupted
  generalize offered : text.toUTF8 = bytes at transcribes
  rcases transcribes with ⟨front, frontGoesOn, _⟩ | _
  rcases breaksOff with
    ⟨before, cutText, after, writes, goOn, failed, fault, fails, _, part, rest, split, some, taken⟩
  rw [← List.append_assoc] at joined ⊢
  refine .mk (text :: before) cutText after (front ++ writes)
    (List.forall_mem_append.mpr ⟨frontGoesOn, goOn⟩) failed fault fails joined part rest split
    some ?_
  rw [allTaken_append, taken, ← offered, ← ByteArray.append_assoc, ← toUTF8_join_cons]

end OutletEvent

open OutletEvent

/-! ## Outlets and recording outlets -/

theorem extract_append_rest (bytes : ByteArray) (count : Nat) :
    bytes.extract 0 count ++ bytes.extract count bytes.size = bytes := by
  rw [ByteArray.extract_append_extract, Nat.zero_min, ByteArray.extract_zero_max_size]

section Outlets

variable {ω : Type}

/--
Whether a run of a recording outlet is the run of the outlet that it records, and what has been
written down is a transcript of writing certain bytes.
-/
structure RecordingOutlet.Transcribes (recorder : RecordingOutlet ω)
    (run : Reception × RecordingOutlet ω) (plain : Reception × ω) (bytes : ByteArray) : Prop where
  reception : run.1 = plain.1
  outlet : run.2.outlet = plain.2
  events : ∃ events, run.2.events = recorder.events ++ events ∧
    OutletEvent.Transcribes bytes events run.1

theorem RecordingOutlet.Transcribes.prepend {recorder middle : RecordingOutlet ω}
    {run : Reception × RecordingOutlet ω} {plain : Reception × ω} {part rest : ByteArray}
    {front : List OutletEvent} (noted : middle.events = recorder.events ++ front)
    (first : OutletEvent.Transcribes part front .taken)
    (second : RecordingOutlet.Transcribes middle run plain rest) :
    RecordingOutlet.Transcribes recorder (run.1.after part.size, run.2)
      (plain.1.after part.size, plain.2) (part ++ rest) := by
  rcases second with ⟨sameReception, sameOutlet, events, further, transcribes⟩
  refine ⟨by rw [sameReception], sameOutlet, front ++ events, ?_, first.andThen transcribes⟩
  rw [further, noted, List.append_assoc]

namespace Outlet

variable [Outlet ω]

section Cases

variable {outlet next : ω} {bytes : ByteArray}

theorem insist_of_interrupted (interrupted : write outlet bytes = (.interrupted, next)) :
    insist outlet bytes = insist next bytes := by
  rw [insist]
  split <;> simp_all

theorem insist_of_final {result : Except Fault Nat}
    (final : write outlet bytes = (finalOutcome result, next)) :
    insist outlet bytes = (result, next) := by
  rw [insist]
  cases result <;> split <;> simp_all [finalOutcome]

/-- An interruption is as good as none: the bytes are written by what it leaves behind. -/
theorem writeWhole_of_interrupted (some : bytes.size ≠ 0)
    (interrupted : write outlet bytes = (.interrupted, next)) :
    writeWhole outlet bytes = writeWhole next bytes := by
  rw [writeWhole, if_neg some, insist_of_interrupted interrupted]
  symm
  rw [writeWhole, if_neg some]

theorem writeWhole_of_empty (empty : bytes.size = 0) :
    writeWhole outlet bytes = (.taken, outlet) := by
  rw [writeWhole, if_pos empty]

theorem writeWhole_of_fault {result : Except Fault Nat} {fault : Fault} (some : bytes.size ≠ 0)
    (written : insist outlet bytes = (result, next))
    (failed : (OutletEvent.write bytes (finalOutcome result)).writeFault? = .some fault) :
    writeWhole outlet bytes = (.cut 0 fault, next) := by
  rw [writeWhole, if_neg some, written]
  rcases result with problem | _ | more <;> cases failed <;> rfl

theorem writeWhole_of_taking {count : Nat} (some : bytes.size ≠ 0)
    (written : insist outlet bytes = (.ok count, next)) (positive : 0 < count) :
    writeWhole outlet bytes =
      let further := writeWhole next (bytes.extract count bytes.size)
      (further.1.after (bytes.extract 0 count).size, further.2) := by
  rw [writeWhole, if_neg some, written]
  cases count with
  | zero => simp at positive
  | succ more => rfl

end Cases

theorem write_recorder {outlet next : ω} {bytes : ByteArray} {outcome : WriteOutcome}
    (written : write outlet bytes = (outcome, next)) (past : List OutletEvent) :
    write (RecordingOutlet.mk outlet past) bytes =
      (outcome, ⟨next, past ++ [.write bytes outcome]⟩) := by
  change ((write outlet bytes).1, RecordingOutlet.mk (write outlet bytes).2
    (past ++ [.write bytes (write outlet bytes).1])) = _
  rw [written]

/-- Recording changes nothing, and shows how often a write has been interrupted. -/
theorem insist_recorder (outlet : ω) (bytes : ByteArray) (past : List OutletEvent) :
    ∃ result next interruptions, insist outlet bytes = (result, next) ∧
      insist (RecordingOutlet.mk outlet past) bytes =
        (result, ⟨next, past ++ insisted bytes interruptions (finalOutcome result)⟩) := by
  fun_induction insist outlet bytes generalizing past with
  | case1 outlet count next took =>
      exact ⟨.ok count, next, 0, rfl, insist_of_final (write_recorder took past)⟩
  | case2 outlet fault next failed =>
      exact ⟨.error fault, next, 0, rfl, insist_of_final (write_recorder failed past)⟩
  | case3 outlet next interrupted _ inductionHypothesis =>
      rcases inductionHypothesis (past ++ [.write bytes .interrupted]) with
        ⟨result, last, interruptions, written, recorded⟩
      refine ⟨result, last, interruptions + 1, written, ?_⟩
      rw [insist_of_interrupted (write_recorder interrupted past), recorded, insisted_succ,
        List.append_assoc]
      rfl

theorem transcribes_writeWhole (bytes : ByteArray) (recorder : RecordingOutlet ω) :
    recorder.Transcribes (writeWhole recorder bytes) (writeWhole recorder.outlet bytes) bytes := by
  induction remaining : bytes.size using Nat.strongRecOn generalizing bytes recorder with
  | ind size inductionHypothesis =>
      by_cases empty : bytes.size = 0
      · rw [writeWhole_of_empty empty, writeWhole_of_empty empty]
        exact ⟨rfl, rfl, [], by simp, .ofEmpty empty⟩
      · rcases insist_recorder recorder.outlet bytes recorder.events with
          ⟨result, next, interruptions, written, recorded⟩
        rcases finalOutcome_cases bytes result with ⟨fault, failed⟩ | ⟨count, rfl, positive⟩
        · rw [writeWhole_of_fault empty recorded failed, writeWhole_of_fault empty written failed]
          exact ⟨rfl, rfl, _, rfl, .ofFault (finalOutcome_ne result) failed empty interruptions⟩
        · have fewer : (bytes.extract count bytes.size).size < size := by
            rw [ByteArray.size_extract]
            omega
          have further := inductionHypothesis _ fewer _
            ⟨next, recorder.events ++ insisted bytes interruptions (.took count)⟩ rfl
          have joined : recorder.Transcribes _ _ _ :=
            further.prepend rfl (.ofTaking positive interruptions)
          rw [extract_append_rest] at joined
          rw [writeWhole_of_taking empty recorded positive,
            writeWhole_of_taking empty written positive]
          exact joined

/-- Cutting bytes into parts is not seen in what is written. -/
theorem transcribes_writeParts (sizes : List Nat) (recorder : RecordingOutlet ω)
    (bytes : ByteArray) :
    recorder.Transcribes (writeParts sizes recorder bytes)
      (writeParts sizes recorder.outlet bytes) bytes := by
  induction sizes generalizing bytes recorder with
  | nil => exact transcribes_writeWhole bytes recorder
  | cons size sizes inductionHypothesis =>
      have first : recorder.Transcribes (writeWhole recorder (bytes.extract 0 size))
          (writeWhole recorder.outlet (bytes.extract 0 size)) (bytes.extract 0 size) :=
        transcribes_writeWhole _ recorder
      rw [writeParts, writeParts]
      generalize writeWhole recorder (bytes.extract 0 size) = run at first ⊢
      generalize writeWhole recorder.outlet (bytes.extract 0 size) = plain at first ⊢
      rcases run with ⟨reception, middle⟩
      rcases plain with ⟨plainReception, next⟩
      rcases first with ⟨sameReception, sameOutlet, events, noted, transcribes⟩
      simp only at sameReception sameOutlet noted transcribes
      subst sameReception sameOutlet
      cases reception with
      | cut count fault =>
          have broken := transcribes.append_of_cut (bytes.extract size bytes.size)
          rw [extract_append_rest] at broken
          exact ⟨rfl, rfl, events, noted, broken⟩
      | taken =>
          have further := inductionHypothesis middle (bytes.extract size bytes.size)
          have joined := further.prepend noted transcribes
          rw [extract_append_rest] at joined
          exact joined

end Outlet

end Outlets

/-! ## Channels -/

namespace Channel

variable {ω : Type} {channel next last : Channel (OutletDevice (RecordingOutlet ω))}
  {events : List OutletEvent}

/-- Whether events have been written down, and what they say to be taken has been received. -/
structure Adds (channel : Channel (OutletDevice (RecordingOutlet ω))) (events : List OutletEvent)
    (next : Channel (OutletDevice (RecordingOutlet ω))) : Prop where
  noted : next.device.outlet.events = channel.device.outlet.events ++ events
  received : next.received = channel.received ++ allTaken events

theorem Adds.trans {further : List OutletEvent} (adds : channel.Adds events next)
    (addsFurther : next.Adds further last) : channel.Adds (events ++ further) last where
  noted := by rw [addsFurther.noted, adds.noted, List.append_assoc]
  received := by
    rw [addsFurther.received, adds.received, allTaken_append, ByteArray.append_assoc]

variable [Outlet ω]

/-- A text is taken or cut, with or without a transcript, and the transcript is one of writing it. -/
theorem write_outlet_cases (channel : Channel (OutletDevice (RecordingOutlet ω)))
    (text : String) :
    (∃ next events, channel.write text = (.ok (), next) ∧
      channel.unrecordedOutlet.write text = (.ok (), next.unrecordedOutlet) ∧
      channel.Adds events next ∧ Transcribes text.toUTF8 events .taken) ∨
    ∃ count fault next events, channel.write text = (.error fault, next) ∧
      channel.unrecordedOutlet.write text = (.error fault, next.unrecordedOutlet) ∧
      channel.Adds events next ∧ Transcribes text.toUTF8 events (.cut count fault) := by
  have offered : ∀ {ω : Type} [Outlet ω] (device : OutletDevice ω),
      Device.receive device text.toUTF8 =
        let written := Outlet.writeParts (device.sizes text.toUTF8) device.outlet text.toUTF8
        (written.1, ⟨written.2, device.sizes⟩) := fun _ => rfl
  have recorded := offered channel.device
  have plain := offered channel.unrecordedOutlet.device
  have run := Outlet.transcribes_writeParts (channel.device.sizes text.toUTF8)
    channel.device.outlet text.toUTF8
  simp only [unrecordedOutlet] at plain
  generalize Outlet.writeParts _ channel.device.outlet text.toUTF8 = written at recorded run
  generalize Outlet.writeParts _ channel.device.outlet.outlet text.toUTF8 = other at plain run
  rcases written with ⟨reception, recorder⟩
  rcases other with ⟨otherReception, outlet⟩
  rcases run with ⟨sameReception, sameOutlet, events, noted, transcribes⟩
  simp only at sameReception sameOutlet noted transcribes
  subst sameReception sameOutlet
  cases reception with
  | taken =>
      refine .inl ⟨_, events, write_of_taken recorded, write_of_taken plain, ⟨noted, ?_⟩,
        transcribes⟩
      exact congrArg (channel.received ++ ·) transcribes.eq_allTaken
  | cut count fault =>
      refine .inr ⟨count, fault, _, events, write_of_cut recorded, write_of_cut plain,
        ⟨noted, ?_⟩, transcribes⟩
      exact congrArg (channel.received ++ ·) transcribes.extract_eq_allTaken

/-- All texts are taken, or the writes break off. -/
theorem writeAll_outlet_cases (channel : Channel (OutletDevice (RecordingOutlet ω)))
    (texts : List String) :
    (∃ last events, channel.writeAll texts = (.ok (), last) ∧
      channel.unrecordedOutlet.writeAll texts = (.ok (), last.unrecordedOutlet) ∧
      channel.Adds events last ∧ Transcribes (String.join texts).toUTF8 events .taken) ∨
    ∃ fault last events, channel.writeAll texts = (.error fault, last) ∧
      channel.unrecordedOutlet.writeAll texts = (.error fault, last.unrecordedOutlet) ∧
      channel.Adds events last ∧ BreaksOff texts events fault := by
  induction texts generalizing channel with
  | nil =>
      refine .inl ⟨channel, [], rfl, rfl, ⟨by simp, ?_⟩, .ofEmpty rfl⟩
      exact ByteArray.append_empty.symm
  | cons text rest inductionHypothesis =>
      rcases channel.write_outlet_cases text with
        ⟨next, events, written, plain, adds, transcribes⟩ |
        ⟨count, fault, last, events, broken, plain, adds, transcribes⟩
      · rcases inductionHypothesis next with
          ⟨last, further, restWritten, restPlain, restAdds, restTranscribes⟩ |
          ⟨fault, last, further, restBroken, restPlain, restAdds, breaksOff⟩
        · refine .inl ⟨last, events ++ further, ?_, ?_, adds.trans restAdds, ?_⟩
          · simp only [writeAll, written, restWritten]
          · simp only [writeAll, plain, restPlain]
          · have joined := transcribes.andThen restTranscribes
            rwa [toUTF8_join_cons]
        · refine .inr ⟨fault, last, events ++ further, ?_, ?_, adds.trans restAdds,
            breaksOff.cons transcribes⟩
          · simp only [writeAll, written, restBroken]
          · simp only [writeAll, plain, restPlain]
      · refine .inr ⟨fault, last, events, ?_, ?_, adds, .ofCut transcribes rest⟩
        · simp only [writeAll, broken]
        · simp only [writeAll, plain]

end Channel

/-! ## Writers -/

namespace DocumentWriter

variable {ω : Type} [Outlet ω]

/-- Finishing flushes after lines that have all been taken, and only then. -/
theorem finish_emitAll_outlet_cases (channel : Channel (OutletDevice (RecordingOutlet ω)))
    (commands : List PathCommand) :
    ∃ outcome last events,
      (PathSink.emitAll (ofChannel channel) commands).finish = (outcome, last) ∧
      (PathSink.emitAll (ofChannel channel.unrecordedOutlet) commands).finish =
        (outcome, last.unrecordedOutlet) ∧
      channel.Adds events last ∧ RepeatsInterrupted events ∧
      ((∃ writes, events = writes ++ [.flush outcome] ∧
          Transcribes (String.join (DocumentStyle.body commands)).toUTF8 writes .taken) ∨
        ∃ fault, outcome = .error fault ∧
          BreaksOff (DocumentStyle.body commands) events fault) := by
  rcases channel.writeAll_outlet_cases (DocumentStyle.body commands) with
    ⟨last, writes, written, plain, adds, transcribes⟩ |
    ⟨fault, last, events, broken, plain, adds, breaksOff⟩
  · have flushed : last.Adds [.flush last.flush.1] last.flush.2 :=
      ⟨rfl, ByteArray.append_empty.symm⟩
    refine ⟨last.flush.1, last.flush.2, writes ++ [.flush last.flush.1], ?_, ?_,
      adds.trans flushed, transcribes.repeatsInterrupted.append (repeatsInterrupted_flush _),
      .inl ⟨writes, rfl, transcribes⟩⟩
    · rw [emitAll_ofChannel, written]
      rfl
    · rw [emitAll_ofChannel, plain]
      rfl
  · refine ⟨.error fault, last, events, ?_, ?_, adds, breaksOff.repeatsInterrupted,
      .inr ⟨fault, rfl, breaksOff⟩⟩
    · rw [emitAll_ofChannel, broken]
      rfl
    · rw [emitAll_ofChannel, plain]
      rfl

/-- Lines that break off do so within the line of one of the commands. -/
theorem exists_command_of_breaksOff {commands : List PathCommand} {events : List OutletEvent}
    {fault : Fault} (breaksOff : BreaksOff (DocumentStyle.body commands) events fault) :
    ∃ writes failed, events = writes ++ [failed] ∧ (∀ event ∈ writes, event.GoesOn) ∧
      failed.writeFault? = some fault ∧
      ∃ written command further part rest, commands = written ++ command :: further ∧
        (Document.commandLine command).toUTF8 = part ++ rest ∧ rest.size ≠ 0 ∧
        allTaken writes = (String.join (DocumentStyle.body written)).toUTF8 ++ part := by
  generalize lines : DocumentStyle.body commands = texts at breaksOff
  rcases breaksOff with
    ⟨before, text, after, writes, goOn, failed, _, fails, _, part, rest, split, some, taken⟩
  rcases List.map_eq_append_iff.mp lines with ⟨written, remaining, rfl, rfl, remainingLines⟩
  rcases List.map_eq_cons_iff.mp remainingLines with ⟨command, further, rfl, rfl, _⟩
  exact ⟨writes, failed, rfl, goOn, fails, written, command, further, part, rest, rfl, split,
    some, taken⟩

/--
A writer keeps the first failure. Commands are sent to a writer on an outlet, whatever this takes
in a write, whenever it is interrupted or fails and however lines are cut into parts, and the
writer is finished. The transcript changes nothing, and what has been received is what the writes
have taken. A write that is interrupted is made again. If no write fails, the lines of all commands
have been received, and the outlet is flushed once, as the last thing that is asked of it and with
the outcome of finishing. If a write fails, it is the last thing that is asked of the outlet, and
its fault is the outcome; the lines of the commands before one of them have been received, and the
first few bytes of this one's line.
-/
theorem finish_emitAll_latches (outlet : ω) (sizes : ByteArray → List Nat)
    (commands : List PathCommand) :
    let recorder : OutletDevice (RecordingOutlet ω) := ⟨⟨outlet, []⟩, sizes⟩
    let run := (PathSink.emitAll (ofChannel (.ofDevice recorder)) commands).finish
    let events := run.2.device.outlet.events
    let device : OutletDevice ω := ⟨outlet, sizes⟩
    (PathSink.emitAll (ofChannel (.ofDevice device)) commands).finish =
        (run.1, run.2.unrecordedOutlet) ∧
      run.2.received = allTaken events ∧ RepeatsInterrupted events ∧
      ((∀ event ∈ events, event.writeFault? = none) →
        run.2.received = (String.join (DocumentStyle.body commands)).toUTF8 ∧
        ∃ writes, events = writes ++ [.flush run.1] ∧ ∀ event ∈ writes, event.GoesOn) ∧
      ∀ failed ∈ events, ∀ fault, failed.writeFault? = some fault →
        run.1 = .error fault ∧
        (∃ writes, events = writes ++ [failed] ∧ ∀ event ∈ writes, event.GoesOn) ∧
        ∃ written command further part rest, commands = written ++ command :: further ∧
          (Document.commandLine command).toUTF8 = part ++ rest ∧ rest.size ≠ 0 ∧
          run.2.received = (String.join (DocumentStyle.body written)).toUTF8 ++ part := by
  intro recorder run events device
  rcases finish_emitAll_outlet_cases (.ofDevice recorder) commands with
    ⟨outcome, last, asked, finished, plain, ⟨noted, received⟩, repeats, course⟩
  have ran : run = (outcome, last) := finished
  have alike : events = asked := by
    rw [show events = run.2.device.outlet.events from rfl, ran]
    exact noted
  have taken : run.2.received = allTaken events := by
    rw [alike, ran, received]
    exact ByteArray.empty_append
  clear_value events run
  subst ran alike
  rcases course with ⟨writes, rfl, transcribes⟩ | ⟨kept, rfl, breaksOff⟩
  · have goOn := transcribes.goesOn
    refine ⟨plain, taken, repeats, ?_, ?_⟩
    · intro _
      refine ⟨?_, writes, rfl, goOn⟩
      rw [taken, transcribes.eq_allTaken, allTaken_append]
      exact ByteArray.append_empty
    · intro failed failedMem fault fails
      rw [eq_of_mem_concat_of_writeFault? goOn failedMem fails] at fails
      cases fails
  · rcases exists_command_of_breaksOff breaksOff with
      ⟨writes, last, rfl, goOn, lastFails, cutWithin⟩
    refine ⟨plain, taken, repeats, ?_, ?_⟩
    · intro well
      rw [well last (by simp)] at lastFails
      cases lastFails
    · intro failed failedMem fault fails
      rcases eq_of_mem_concat_of_writeFault? goOn failedMem fails
      rcases Option.some.inj (lastFails.symm.trans fails)
      refine ⟨rfl, ⟨writes, rfl, goOn⟩, ?_⟩
      rwa [taken, allTaken_concat_of_writeFault? fails]

/-- A run on a trickle, with lines cut after six bytes. -/
def trickled (outcomes : List WriteOutcome) (commands : List PathCommand) :
    Except Fault Unit × Channel (OutletDevice (RecordingOutlet Trickle)) :=
  let recorder : OutletDevice (RecordingOutlet Trickle) := ⟨⟨⟨outcomes⟩, []⟩, fun _ => [6]⟩
  (PathSink.emitAll (ofChannel (.ofDevice recorder)) commands).finish

/--
A trickle that is only interrupted takes all lines. One that fails would take more afterwards,
but it is not asked to.
-/
theorem finish_emitAll_latches_trickled :
    let commands := [.stroke, .lineTo ⟨0.125, -2.5⟩, .stroke]
    let whole := trickled [.interrupted, .took 2, .interrupted, .interrupted] commands
    let broken := trickled
      [.took 3, .interrupted, .took 3, .took 1, .took 6, .interrupted, .failed LimitedDisk.full]
      commands
    (∀ event ∈ whole.2.device.outlet.events, event.writeFault? = none) ∧
      whole.1.isOk ∧
      whole.2.received = (String.join (DocumentStyle.body commands)).toUTF8 ∧
      ∃ failed ∈ broken.2.device.outlet.events, failed.writeFault? = some LimitedDisk.full ∧
        broken.1 = .error LimitedDisk.full ∧
        (∃ writes, broken.2.device.outlet.events = writes ++ [failed] ∧
          ∀ event ∈ writes, event.GoesOn) ∧
        broken.2.received = "stroke\n0.12 -".toUTF8 := by
  intro commands whole broken
  have well : ∀ event ∈ whole.2.device.outlet.events, event.writeFault? = none := by
    decide +kernel
  have finished : whole.1.isOk := by decide +kernel
  have fails : broken.2.device.outlet.events[6]?.bind OutletEvent.writeFault? =
      some LimitedDisk.full := by decide +kernel
  rcases Option.bind_eq_some_iff.mp fails with ⟨failed, place, failedFails⟩
  have failedMem := List.mem_of_getElem? place
  rcases finish_emitAll_latches
      (Trickle.mk [.interrupted, .took 2, .interrupted, .interrupted]) (fun _ => [6]) commands with
    ⟨_, _, _, complete, _⟩
  rcases finish_emitAll_latches
      (Trickle.mk [.took 3, .interrupted, .took 3, .took 1, .took 6, .interrupted,
        .failed LimitedDisk.full]) (fun _ => [6]) commands with
    ⟨_, _, _, _, latches⟩
  rcases latches failed failedMem _ failedFails with ⟨reported, atEnd, _⟩
  exact ⟨well, finished, (complete well).1, failed, failedMem, failedFails, reported, atEnd,
    by decide +kernel⟩

end DocumentWriter

end Lindenmayer
