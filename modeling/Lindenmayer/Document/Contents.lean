import Lindenmayer.Document.Composition
import Lindenmayer.Document.Reading

/-!
# What a document holds

A reader who knows nothing of drawings divides a text into lines and takes these for the
header, the body and the trailer of a document, in this order. It goes by the lines alone: in
the header each line has its place, and the body goes on as long as there are path commands.
-/

namespace Lindenmayer

namespace Document

/-- A document as it is printed. -/
structure PrintedDocument where
  title : String
  creator : String
  commands : List PrintedCommand
  box : PrintedBox
deriving DecidableEq, Repr

/-- The lines of a text, each of which must have been ended. -/
def readLines? (text : String) : Option (List String) :=
  let parts := text.toList.splitOn '\n'
  if parts.getLast? = some [] then some (parts.dropLast.map String.ofList) else none

/-- What stands between the two ends of a line. -/
def between? (front back text : String) : Option String := do
  let rest ← front.toList.isPrefixOf? text.toList
  return String.ofList (← back.toList.isSuffixOf? rest)

/-- Reads title and creator off the header, and hands back the lines after it. -/
def readHeader? : List String → Option (String × String × List String)
  | version :: title :: creator :: box :: last :: rest =>
    if version = "%!PS-Adobe-3.0 EPSF-3.0" ∧ box = "%%BoundingBox: (atend)" ∧
        last = "%%EndComments" then do
      return (← between? "%%Title: (" ")" title, ← between? "%%Creator: (" ")" creator, rest)
    else
      none
  | _ => none

/-- Reads path commands up to the trailer, and the box in this. -/
def readBody? : List String → Option (List PrintedCommand × PrintedBox)
  | [] => none
  | ["%%Trailer", box, "%%EOF"] => (readBox? box).map ([], ·)
  | line :: rest => do
    let command ← readCommand? line
    let (commands, box) ← readBody? rest
    return (command :: commands, box)

def readDocument? (text : String) : Option PrintedDocument := do
  let (title, creator, rest) ← readHeader? (← readLines? text)
  let (commands, box) ← readBody? rest
  return ⟨title, creator, commands, box⟩

/-- Whether a line says something of the bounding box. -/
def DeclaresBox (text : String) : Prop := "%%BoundingBox:".toList <+: text.toList

instance : DecidablePred DeclaresBox := fun text =>
  inferInstanceAs (Decidable ("%%BoundingBox:".toList <+: text.toList))

def headerTexts (title creator : String) : List String := [
  "%!PS-Adobe-3.0 EPSF-3.0",
  "%%Title: (" ++ title ++ ")",
  "%%Creator: (" ++ creator ++ ")",
  "%%BoundingBox: (atend)",
  "%%EndComments"
]

def trailerTexts (box : Box) : List String :=
  ["%%Trailer", "%%BoundingBox: " ++ boxText box, "%%EOF"]

end Document

/-- Whether sound devices take whatever is offered, remain sound and are flushed well. -/
structure Device.NeverFails {δ : Type} [Device δ] (sound : δ → Prop) : Prop where
  receive : ∀ device bytes, sound device →
    ∃ next, Device.receive device bytes = (.taken, next) ∧ sound next
  flush : ∀ device, sound device → (Device.flush device).1 = .ok ()

namespace DocumentStyle

/-- The lines of the whole document, without their ends. -/
def texts (style : DocumentStyle) (commands : List PathCommand) (box : Box) : List String :=
  Document.headerTexts style.title style.creator ++ commands.map Document.commandText ++
    Document.trailerTexts box

end DocumentStyle

end Lindenmayer
