import Lindenmayer.Document.Device

/-!
# Transcripts

A device that hands everything on to another device and writes down what it is offered
and how that ends. What went wrong in a run, and what was still offered afterwards, can
thus be told from the device alone, whatever is made of it by those who write to it.
-/

namespace Lindenmayer

inductive DeviceEvent where
  | offer (bytes : ByteArray) (reception : Reception)
  | flush (outcome : Except Fault Unit)

namespace DeviceEvent

/-- What went wrong, if something did. -/
def fault? : DeviceEvent → Option Fault
  | offer _ .taken => none
  | offer _ (.cut _ fault) => some fault
  | flush (.ok ()) => none
  | flush (.error fault) => some fault

def ofTaken (text : String) : DeviceEvent := .offer text.toUTF8 .taken

/-- Texts are offered and taken up to one that is not, and nothing is offered after it. -/
inductive BreaksOff : (texts : List String) → List DeviceEvent → Fault → Prop
  | mk (before : List String) (text : String) (after : List String) (count : Nat) (fault : Fault) :
      BreaksOff (before ++ text :: after)
        (before.map ofTaken ++ [.offer text.toUTF8 (.cut count fault)]) fault

/-- What happened before and after something went wrong for the first time. -/
structure FirstFault (events before : List DeviceEvent) (fault : Fault)
    (after : List DeviceEvent) : Prop where
  split : ∃ event, events = before ++ event :: after ∧ event.fault? = some fault
  well : ∀ event ∈ before, event.fault? = none

end DeviceEvent

/-- A device with what has happened to it. -/
structure RecordingDevice (δ : Type) where
  device : δ
  events : List DeviceEvent

namespace RecordingDevice

variable {δ : Type} [Device δ]

instance : Device (RecordingDevice δ) where
  receive recorder bytes :=
    let (reception, device) := Device.receive recorder.device bytes
    (reception, ⟨device, recorder.events ++ [.offer bytes reception]⟩)
  flush recorder :=
    let (outcome, device) := Device.flush recorder.device
    (outcome, ⟨device, recorder.events ++ [.flush outcome]⟩)

end RecordingDevice

namespace Channel

variable {δ : Type}

/-- Lets the transcript begin. -/
def recorded (channel : Channel δ) : Channel (RecordingDevice δ) :=
  ⟨⟨channel.device, []⟩, channel.received⟩

/-- Throws the transcript away. -/
def unrecorded (channel : Channel (RecordingDevice δ)) : Channel δ :=
  ⟨channel.device.device, channel.received⟩

end Channel

end Lindenmayer
