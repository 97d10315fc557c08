import Lindenmayer.Fault

/-!
# Output devices

Documents are written to a device that may take only part of what it is offered,
or nothing, and may do better or worse the next time. A device is a state with
two reactions: to bytes offered and to being flushed. A channel is a device
together with the bytes it has taken so far. By construction these grow, with
each write, by the bytes offered or by the first few of them.
-/

namespace Lindenmayer

/-- How a device reacts to bytes offered to it. -/
inductive Reception where
  | taken
  /-- Only the first few were taken, and the others are lost. -/
  | cut (count : Nat) (fault : Fault)
deriving DecidableEq, Repr

/-- Something that takes bytes, for better or worse. -/
class Device (δ : Type) where
  receive : δ → ByteArray → Reception × δ
  /-- Asks the device to let nothing linger. -/
  flush : δ → Except Fault Unit × δ

/-- A device and the bytes it has taken. -/
structure Channel (δ : Type) where
  device : δ
  received : ByteArray

namespace Channel

variable {δ : Type}

def ofDevice (device : δ) : Channel δ := ⟨device, ByteArray.empty⟩

variable [Device δ]

def write (channel : Channel δ) (text : String) : Except Fault Unit × Channel δ :=
  let bytes := text.toUTF8
  match Device.receive channel.device bytes with
  | (.taken, device) => (.ok (), ⟨device, channel.received ++ bytes⟩)
  | (.cut count fault, device) =>
    (.error fault, ⟨device, channel.received ++ bytes.extract 0 count⟩)

/-- Offers texts one after the other, up to the first that is not taken. -/
def writeAll (channel : Channel δ) : List String → Except Fault Unit × Channel δ
  | [] => (.ok (), channel)
  | text :: rest =>
    match channel.write text with
    | (.ok (), channel) => channel.writeAll rest
    | (.error fault, channel) => (.error fault, channel)

def flush (channel : Channel δ) : Except Fault Unit × Channel δ :=
  let (outcome, device) := Device.flush channel.device
  (outcome, { channel with device })

end Channel

/-- A device that takes everything. -/
structure Paper where
deriving Inhabited

instance : Device Paper where
  receive paper _ := (.taken, paper)
  flush paper := (.ok (), paper)

structure LimitedDisk where
  /-- How many more bytes fit; no limit if absent. -/
  room : Option Nat
  /-- Whether the disk takes everything again after it has once been full. -/
  recovers : Bool
  /-- What flushing fails with, if it fails. -/
  flushFault : Option Fault

namespace LimitedDisk

def full : Fault := ⟨"disk full"⟩

def receive (disk : LimitedDisk) (bytes : ByteArray) : Reception × LimitedDisk :=
  match disk.room with
  | none => (.taken, disk)
  | some room =>
    if bytes.size ≤ room then
      (.taken, { disk with room := some (room - bytes.size) })
    else
      (.cut room full, { disk with room := if disk.recovers then none else some 0 })

instance : Device LimitedDisk where
  receive := receive
  flush disk :=
    match disk.flushFault with
    | none => (.ok (), disk)
    | some fault => (.error fault, disk)

end LimitedDisk

end Lindenmayer
