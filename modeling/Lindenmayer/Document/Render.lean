import Lindenmayer.Document.Writer
import Lindenmayer.Grammar.Render
import Lindenmayer.Turtle.Silent
import Lindenmayer.Turtle.Tracing

/-!
# Rendering a grammar as a document

A drawing turtle is put at the pose of a given turtle and sends its path to a
document writer. The number of rounds and the action names are checked before
anything is written, so a grammar that cannot be rendered leaves the device
untouched.
-/

namespace Lindenmayer

/-- Why a document was not completed. -/
inductive DocumentError where
  | render (error : RenderError)
  | output (fault : Fault)
deriving DecidableEq, Repr

def DocumentError.message : DocumentError → String
  | .render error => error.message
  | .output fault => "i/o error: " ++ fault.message

/-- What a document says about itself, and the action names its turtle understands. -/
structure DocumentStyle where
  title : String
  creator : String
  vocabulary : Vocabulary

namespace DocumentStyle

def defaultCreator : String := "lsystem-turtle"

def ofTitle (title : String) : DocumentStyle := ⟨title, defaultCreator, .standard⟩

variable {τ δ : Type} [Turtle τ] [Device δ]

/-- Checks what can be checked before anything is written. -/
def check (style : DocumentStyle) (grammar : Grammar) (rounds : Int) : Except RenderError Unit :=
  if rounds < 0 then .error (.negativeRounds rounds)
  else grammar.checkActions { SilentTurtle.standard with vocabulary := style.vocabulary }

/-- The turtle that draws the document: at the pose and with the units of another turtle. -/
def drawingTurtle (style : DocumentStyle) (start : τ) {σ : Type} [PathSink σ] (sink : σ) :
    TracingTurtle σ :=
  let turtle := { TracingTurtle.standard sink with vocabulary := style.vocabulary }
  Turtle.reset (Turtle.setUnits turtle (Turtle.units start)) (Turtle.pose start)

/-- Draws the path commands of a document and writes its trailer. -/
def renderBody (style : DocumentStyle) (grammar : Grammar) (start : τ) (rounds : Int)
    (writer : DocumentWriter δ) : Except DocumentError Box × Channel δ :=
  match grammar.renderInitiator (style.drawingTurtle start writer) rounds with
  | .error error => (.error (.render error), writer.channel)
  | .ok rendering =>
    match rendering.turtle.finish.trailer rendering.box with
    | (.error fault, writer) => (.error (.output fault), writer.channel)
    | (.ok (), writer) =>
      match writer.finish with
      | (.error fault, channel) => (.error (.output fault), channel)
      | (.ok (), channel) => (.ok rendering.box, channel)

/-- Renders the initiator of a grammar to a channel and reports the box of the drawing. -/
def render (style : DocumentStyle) (grammar : Grammar) (start : τ) (rounds : Int)
    (channel : Channel δ) : Except DocumentError Box × Channel δ :=
  match style.check grammar rounds with
  | .error error => (.error (.render error), channel)
  | .ok () =>
    match (DocumentWriter.ofChannel channel).header style.title style.creator with
    | (.error fault, writer) => (.error (.output fault), writer.channel)
    | (.ok (), writer) => style.renderBody grammar start rounds writer

end DocumentStyle

end Lindenmayer
