import Lindenmayer.Document.Transcript

/-!
# Writing to a device

What comes of offering texts to a device one after the other. Either all are taken, and
the bytes received grow by just these texts; or the offers break off at the first text
that is not taken. That nothing else happens is said of a device with a transcript, which
behaves like the device without one.
-/

namespace Lindenmayer

theorem toUTF8_join_cons (text : String) (texts : List String) :
    (String.join (text :: texts)).toUTF8 = text.toUTF8 ++ (String.join texts).toUTF8 := by
  rw [String.join_cons]
  exact String.toByteArray_append

theorem fromUTF8?_toUTF8 (text : String) : String.fromUTF8? text.toUTF8 = some text :=
  dif_pos text.isValidUTF8

namespace DeviceEvent

variable {texts : List String}

theorem fault?_of_mem_map_ofTaken {event : DeviceEvent} (eventMem : event ∈ texts.map ofTaken) :
    event.fault? = none := by
  rcases List.mem_map.mp eventMem with ⟨text, _, rfl⟩
  rfl

variable {events : List DeviceEvent} {fault : Fault}

theorem BreaksOff.cons (breaksOff : BreaksOff texts events fault) (text : String) :
    BreaksOff (text :: texts) (.ofTaken text :: events) fault := by
  rcases breaksOff with ⟨before, cut, after, count⟩
  exact .mk (text :: before) cut after count fault

theorem BreaksOff.exists_fault (breaksOff : BreaksOff texts events fault) :
    ∃ event ∈ events, event.fault? = some fault := by
  rcases breaksOff with ⟨before, text, after, count⟩
  exact ⟨.offer text.toUTF8 (.cut count fault), by simp, rfl⟩

end DeviceEvent

namespace Channel

variable {δ : Type} [Device δ]

section Cases

variable {channel : Channel δ} {text : String} {device : δ}

theorem write_of_taken (offered : Device.receive channel.device text.toUTF8 = (.taken, device)) :
    channel.write text = (.ok (), ⟨device, channel.received ++ text.toUTF8⟩) := by
  simp only [write, offered]

theorem write_of_cut {count : Nat} {fault : Fault}
    (offered : Device.receive channel.device text.toUTF8 = (.cut count fault, device)) :
    channel.write text =
      (.error fault, ⟨device, channel.received ++ text.toUTF8.extract 0 count⟩) := by
  simp only [write, offered]

theorem received_of_write {next : Channel δ} (written : channel.write text = (.ok (), next)) :
    next.received = channel.received ++ text.toUTF8 := by
  rcases offered : Device.receive channel.device text.toUTF8 with ⟨_ | ⟨count, fault⟩, device⟩
  · rw [write_of_taken offered] at written
    rw [← (Prod.mk.inj written).2]
  · rw [write_of_cut offered] at written
    simp at written

end Cases

/-- If all texts are taken, they are received as one. -/
theorem received_of_writeAll {channel last : Channel δ} {texts : List String}
    (written : channel.writeAll texts = (.ok (), last)) :
    last.received = channel.received ++ (String.join texts).toUTF8 := by
  induction texts generalizing channel with
  | nil =>
      rw [← (Prod.mk.inj written).2]
      exact ByteArray.append_empty.symm
  | cons text rest inductionHypothesis =>
      rw [writeAll] at written
      split at written
      · rename_i next textWritten
        rw [inductionHypothesis written, received_of_write textWritten, toUTF8_join_cons,
          ByteArray.append_assoc]
      · simp at written

theorem received_of_flush {channel last : Channel δ} {outcome : Except Fault Unit}
    (flushed : channel.flush = (outcome, last)) : last.received = channel.received := by
  rw [← (Prod.mk.inj flushed).2]

section Recording

/-- A text is taken or not, with or without a transcript, and the transcript says which. -/
theorem write_recorded_cases (channel : Channel (RecordingDevice δ)) (text : String) :
    (∃ next, channel.write text = (.ok (), next) ∧
      channel.unrecorded.write text = (.ok (), next.unrecorded) ∧
      next.device.events = channel.device.events ++ [.ofTaken text]) ∨
    ∃ count fault next, channel.write text = (.error fault, next) ∧
      channel.unrecorded.write text = (.error fault, next.unrecorded) ∧
      next.device.events = channel.device.events ++ [.offer text.toUTF8 (.cut count fault)] := by
  have recorded : Device.receive channel.device text.toUTF8 =
      ((Device.receive channel.device.device text.toUTF8).1,
        ⟨(Device.receive channel.device.device text.toUTF8).2, channel.device.events ++
          [.offer text.toUTF8 (Device.receive channel.device.device text.toUTF8).1]⟩) := rfl
  rcases offered : Device.receive channel.unrecorded.device text.toUTF8 with
    ⟨_ | ⟨count, fault⟩, device⟩
  · rw [show Device.receive channel.device.device text.toUTF8 = _ from offered] at recorded
    exact .inl ⟨_, write_of_taken recorded, write_of_taken offered, rfl⟩
  · rw [show Device.receive channel.device.device text.toUTF8 = _ from offered] at recorded
    exact .inr ⟨count, fault, _, write_of_cut recorded, write_of_cut offered, rfl⟩

/-- All texts are taken, or the offers break off. -/
theorem writeAll_recorded_cases (channel : Channel (RecordingDevice δ)) (texts : List String) :
    (∃ last, channel.writeAll texts = (.ok (), last) ∧
      channel.unrecorded.writeAll texts = (.ok (), last.unrecorded) ∧
      last.device.events = channel.device.events ++ texts.map .ofTaken) ∨
    ∃ fault last events, channel.writeAll texts = (.error fault, last) ∧
      channel.unrecorded.writeAll texts = (.error fault, last.unrecorded) ∧
      last.device.events = channel.device.events ++ events ∧
      DeviceEvent.BreaksOff texts events fault := by
  induction texts generalizing channel with
  | nil => exact .inl ⟨channel, rfl, rfl, by simp⟩
  | cons text rest inductionHypothesis =>
      rcases channel.write_recorded_cases text with
        ⟨next, written, unrecorded, recorded⟩ | ⟨count, fault, last, broken, unrecorded, recorded⟩
      · rcases inductionHypothesis next with
          ⟨last, restWritten, restUnrecorded, restRecorded⟩ |
          ⟨fault, last, events, restBroken, restUnrecorded, restRecorded, breaksOff⟩
        · refine .inl ⟨last, ?_, ?_, ?_⟩
          · simp only [writeAll, written, restWritten]
          · simp only [writeAll, unrecorded, restUnrecorded]
          · rw [restRecorded, recorded, List.append_assoc]
            rfl
        · refine .inr ⟨fault, last, .ofTaken text :: events, ?_, ?_, ?_, breaksOff.cons text⟩
          · simp only [writeAll, written, restBroken]
          · simp only [writeAll, unrecorded, restUnrecorded]
          · rw [restRecorded, recorded, List.append_assoc]
            rfl
      · refine .inr ⟨fault, last, [.offer text.toUTF8 (.cut count fault)], ?_, ?_, recorded,
          .mk [] text rest count fault⟩
        · simp only [writeAll, broken]
        · simp only [writeAll, unrecorded]

theorem events_flush (channel : Channel (RecordingDevice δ)) :
    channel.flush.2.device.events = channel.device.events ++ [.flush channel.flush.1] :=
  rfl

end Recording

end Channel

end Lindenmayer
