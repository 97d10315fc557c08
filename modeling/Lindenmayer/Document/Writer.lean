import Lindenmayer.Document.Device
import Lindenmayer.Document.Lines

/-!
# Writing documents

Sending a path command cannot fail, so a writer keeps the first fault that
happens in doing so and writes no further command after it. The fault comes out
when the writer is finished. Header and trailer are written at once, whatever
happened to the commands, and report their own faults.
-/

namespace Lindenmayer

/-- Writes path commands to a channel and remembers the first fault in doing so. -/
structure DocumentWriter (δ : Type) where
  channel : Channel δ
  /-- The fault of the first command that could not be written. -/
  fault : Option Fault

namespace DocumentWriter

variable {δ : Type}

def ofChannel (channel : Channel δ) : DocumentWriter δ := ⟨channel, none⟩

variable [Device δ]

/-- Writes lines at once, up to the first that is not taken. -/
def writeLines (writer : DocumentWriter δ) (lines : List String) :
    Except Fault Unit × DocumentWriter δ :=
  let (outcome, channel) := writer.channel.writeAll lines
  (outcome, { writer with channel })

def header (writer : DocumentWriter δ) (title creator : String) :
    Except Fault Unit × DocumentWriter δ :=
  writer.writeLines (Document.headerLines title creator)

def trailer (writer : DocumentWriter δ) (box : Box) : Except Fault Unit × DocumentWriter δ :=
  writer.writeLines (Document.trailerLines box)

/-- Writes a path command unless an earlier one could not be written. -/
def emit (writer : DocumentWriter δ) (command : PathCommand) : DocumentWriter δ :=
  match writer.fault with
  | some _ => writer
  | none =>
    match writer.channel.write (Document.commandLine command) with
    | (.ok (), channel) => { writer with channel }
    | (.error fault, channel) => { channel, fault := some fault }

instance : PathSink (DocumentWriter δ) := ⟨emit⟩

/-- Reports the fault that was kept, or else flushes the channel. -/
def finish (writer : DocumentWriter δ) : Except Fault Unit × Channel δ :=
  match writer.fault with
  | some fault => (.error fault, writer.channel)
  | none => writer.channel.flush

end DocumentWriter

end Lindenmayer
