import Lindenmayer.Document.Render
import Lindenmayer.Document.Transcript

/-!
# How a document is put together

A document is drawn straight to a device. Here drawing and writing are taken apart: the
lines of a document are given by path commands and a box, whoever has drawn them, and
writing these lines is a matter of the device alone. `DocumentStyle.Course` lists what can
happen to the device meanwhile.
-/

namespace Lindenmayer.DocumentStyle

variable {τ δ : Type} [Turtle τ] [Device δ]

/-- The turtle of a dry run: a silent one at the pose and with the units of another turtle. -/
def dryTurtle (style : DocumentStyle) (start : τ) : SilentTurtle :=
  let turtle := { SilentTurtle.standard with vocabulary := style.vocabulary }
  Turtle.reset (Turtle.setUnits turtle (Turtle.units start)) (Turtle.pose start)

def header (style : DocumentStyle) : List String :=
  Document.headerLines style.title style.creator

def body (commands : List PathCommand) : List String :=
  commands.map Document.commandLine

/-- The lines of the whole document. -/
def lines (style : DocumentStyle) (commands : List PathCommand) (box : Box) : List String :=
  style.header ++ body commands ++ Document.trailerLines box

/--
Writes commands and the trailer. If a command cannot be written no further one is, and this
is reported at the end, unless the trailer cannot be written either.
-/
def writeBody (commands : List PathCommand) (box : Box) (channel : Channel δ) :
    Except Fault Unit × Channel δ :=
  let (drawn, channel) := channel.writeAll (body commands)
  match channel.writeAll (Document.trailerLines box) with
  | (.error fault, channel) => (.error fault, channel)
  | (.ok (), channel) =>
    match drawn with
    | .error fault => (.error fault, channel)
    | .ok () => channel.flush

/-- Writes a drawing that has been made. -/
def writeDrawing (style : DocumentStyle) (commands : List PathCommand) (box : Box)
    (channel : Channel δ) : Except Fault Unit × Channel δ :=
  match channel.writeAll style.header with
  | (.error fault, channel) => (.error fault, channel)
  | (.ok (), channel) => writeBody commands box channel

/-- What is reported of a drawing with a box when it has been written. -/
def report (box : Box) : Except Fault Unit → Except DocumentError Box
  | .ok () => .ok box
  | .error fault => .error (.output fault)

/--
What can happen to a device while a document is written, and what comes of it. A body
that breaks off is followed by the trailer, which may break off too and is then reported
in place of the body.
-/
inductive Course (header body trailer : List String) :
    List DeviceEvent → Except Fault Unit → Prop
  | complete :
      Course header body trailer
        ((header ++ body ++ trailer).map .ofTaken ++ [.flush (.ok ())]) (.ok ())
  | headerBreaks {events : List DeviceEvent} {fault : Fault}
      (breaksOff : DeviceEvent.BreaksOff header events fault) :
      Course header body trailer events (.error fault)
  | bodyBreaks {events : List DeviceEvent} {fault : Fault}
      (breaksOff : DeviceEvent.BreaksOff body events fault) :
      Course header body trailer (header.map .ofTaken ++ events ++ trailer.map .ofTaken)
        (.error fault)
  | bodyAndTrailerBreak {bodyEvents trailerEvents : List DeviceEvent} {bodyFault fault : Fault}
      (bodyBreaksOff : DeviceEvent.BreaksOff body bodyEvents bodyFault)
      (trailerBreaksOff : DeviceEvent.BreaksOff trailer trailerEvents fault) :
      Course header body trailer (header.map .ofTaken ++ bodyEvents ++ trailerEvents)
        (.error fault)
  | trailerBreaks {events : List DeviceEvent} {fault : Fault}
      (breaksOff : DeviceEvent.BreaksOff trailer events fault) :
      Course header body trailer ((header ++ body).map .ofTaken ++ events) (.error fault)
  | flushFails (fault : Fault) :
      Course header body trailer
        ((header ++ body ++ trailer).map .ofTaken ++ [.flush (.error fault)]) (.error fault)

end Lindenmayer.DocumentStyle
