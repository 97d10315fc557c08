import Lindenmayer.Document.Device

/-!
# Outlets

A device is offered a whole line at a time. Beneath it there may be something that takes a
few bytes at a time and is asked again for the others. An outlet is of this kind: each write
takes some of the bytes offered, or fails, or is interrupted before it has taken any. A line
is handed to it in parts, a part in as many writes as it takes. A write that is interrupted
is made again, and the first write that fails is the last one for this line.

An outlet that interrupted a write time and again would never let a line be written. How
often it can do so in a row is therefore part of it; apart from this there is no limit.

However lines are cut into parts, an outlet makes a device. A recording outlet writes down
what is asked of an outlet, so that it can be told which writes have been attempted.
-/

namespace Lindenmayer

/-- A write that takes nothing would have to be repeated for ever. -/
def Fault.nothingTaken : Fault := ⟨"failed to write whole buffer"⟩

/-- What can come of a write. -/
inductive WriteOutcome where
  | took (count : Nat)
  /-- Something has come in between and nothing has been taken, but nothing is wrong. -/
  | interrupted
  | failed (fault : Fault)
deriving DecidableEq, Repr

/-- Something that takes bytes a few at a time. -/
class Outlet (ω : Type) where
  /-- Takes some of the bytes and tells how many. -/
  write : ω → ByteArray → WriteOutcome × ω
  flush : ω → Except Fault Unit × ω
  /-- How often in a row a write of certain bytes can be interrupted. -/
  interruptions : ω → ByteArray → Nat
  interruptions_lt {outlet next : ω} {bytes : ByteArray} :
    write outlet bytes = (.interrupted, next) → interruptions next bytes < interruptions outlet bytes

/-- What is said of all bytes when some have been taken before. -/
def Reception.after (earlier : Nat) : Reception → Reception
  | taken => taken
  | cut count fault => cut (earlier + count) fault

namespace Outlet

variable {ω : Type} [Outlet ω]

/-- Makes a write, and makes it again as long as it is interrupted. -/
def insist (outlet : ω) (bytes : ByteArray) : Except Fault Nat × ω :=
  match written : write outlet bytes with
  | (.took count, next) => (.ok count, next)
  | (.failed fault, next) => (.error fault, next)
  | (.interrupted, next) =>
    have := interruptions_lt written
    insist next bytes
termination_by interruptions outlet bytes

/-- Writes bytes, and again those that have not been taken. -/
def writeWhole (outlet : ω) (bytes : ByteArray) : Reception × ω :=
  if bytes.size = 0 then (.taken, outlet)
  else
    match insist outlet bytes with
    | (.error fault, outlet) => (.cut 0 fault, outlet)
    | (.ok 0, outlet) => (.cut 0 .nothingTaken, outlet)
    | (.ok (more + 1), outlet) =>
      let part := bytes.extract 0 (more + 1)
      let (reception, outlet) := writeWhole outlet (bytes.extract (more + 1) bytes.size)
      (reception.after part.size, outlet)
termination_by bytes.size
decreasing_by
  rw [ByteArray.size_extract]
  omega

/-- Writes bytes in parts of the given sizes, and what is left in a last one. -/
def writeParts : List Nat → ω → ByteArray → Reception × ω
  | [], outlet, bytes => writeWhole outlet bytes
  | size :: sizes, outlet, bytes =>
    let part := bytes.extract 0 size
    match writeWhole outlet part with
    | (.cut count fault, outlet) => (.cut count fault, outlet)
    | (.taken, outlet) =>
      let (reception, outlet) := writeParts sizes outlet (bytes.extract size bytes.size)
      (reception.after part.size, outlet)

end Outlet

/-- An outlet whose next writes have been laid down; after them it takes three bytes at a time. -/
structure Trickle where
  outcomes : List WriteOutcome

instance : Outlet Trickle where
  write trickle bytes :=
    match trickle.outcomes with
    | [] => (.took (min 3 bytes.size), trickle)
    | outcome :: rest => (outcome, ⟨rest⟩)
  flush trickle := (.ok (), trickle)
  interruptions trickle _ := trickle.outcomes.length
  interruptions_lt := by
    rintro ⟨_ | ⟨outcome, rest⟩⟩ next bytes written
    · cases written
    · cases written
      exact Nat.lt_succ_self _

/-- An outlet as a device. -/
structure OutletDevice (ω : Type) where
  outlet : ω
  /-- The sizes of the parts that bytes are written in. -/
  sizes : ByteArray → List Nat

namespace OutletDevice

variable {ω : Type} [Outlet ω]

instance : Device (OutletDevice ω) where
  receive device bytes :=
    let (reception, outlet) := Outlet.writeParts (device.sizes bytes) device.outlet bytes
    (reception, { device with outlet })
  flush device :=
    let (outcome, outlet) := Outlet.flush device.outlet
    (outcome, { device with outlet })

end OutletDevice

inductive OutletEvent where
  | write (bytes : ByteArray) (outcome : WriteOutcome)
  | flush (outcome : Except Fault Unit)

namespace OutletEvent

def taken : OutletEvent → ByteArray
  | write bytes (.took count) => bytes.extract 0 count
  | _ => ByteArray.empty

/-- The bytes taken in the course of some events. -/
def allTaken : List OutletEvent → ByteArray
  | [] => ByteArray.empty
  | event :: rest => event.taken ++ allTaken rest

/-- What a write failed with, if it failed. -/
def writeFault? : OutletEvent → Option Fault
  | write _ (.failed fault) => some fault
  | write _ (.took 0) => some .nothingTaken
  | _ => none

/-- Whether a write has not failed: it has taken something, or is to be made again. -/
def GoesOn : OutletEvent → Prop
  | write _ (.took count) => 0 < count
  | write _ .interrupted => True
  | _ => False

/-- Whether each write that is interrupted is made again at once, with the same bytes. -/
def RepeatsInterrupted (events : List OutletEvent) : Prop :=
  ∀ (place : Nat) (bytes : ByteArray), events[place]? = some (.write bytes .interrupted) →
    ∃ outcome, events[place + 1]? = some (.write bytes outcome)

end OutletEvent

/-- An outlet with what has been asked of it. -/
structure RecordingOutlet (ω : Type) where
  outlet : ω
  events : List OutletEvent

namespace RecordingOutlet

variable {ω : Type} [Outlet ω]

instance : Outlet (RecordingOutlet ω) where
  write recorder bytes :=
    let (outcome, outlet) := Outlet.write recorder.outlet bytes
    (outcome, ⟨outlet, recorder.events ++ [.write bytes outcome]⟩)
  flush recorder :=
    let (outcome, outlet) := Outlet.flush recorder.outlet
    (outcome, ⟨outlet, recorder.events ++ [.flush outcome]⟩)
  interruptions recorder bytes := Outlet.interruptions recorder.outlet bytes
  interruptions_lt := by
    intro recorder next bytes written
    rcases Prod.mk.inj written with ⟨interrupted, rfl⟩
    exact Outlet.interruptions_lt (Prod.ext interrupted rfl)

end RecordingOutlet

/-- Throws away what has been written down of an outlet. -/
def Channel.unrecordedOutlet {ω : Type} (channel : Channel (OutletDevice (RecordingOutlet ω))) :
    Channel (OutletDevice ω) :=
  ⟨⟨channel.device.outlet.outlet, channel.device.sizes⟩, channel.received⟩

end Lindenmayer
