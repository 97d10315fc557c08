import Lindenmayer.CommandLine.Arguments
import Lindenmayer.Document.Render
import Lindenmayer.GrammarFile.Build
import Lindenmayer.GrammarFile.Load

/-!
# A run of the program

Loads a grammar file, builds the grammar and writes its document to standard
output or to a file. The file is made before the document is rendered, so it is
left empty if that fails. Whatever goes wrong is reported on standard error
together with its causes.
-/

namespace Lindenmayer.CommandLine

/-- What a run leaves behind, apart from files. -/
structure Outcome where
  exitCode : UInt8
  standardOutput : String
  standardError : String
deriving DecidableEq, Repr

/-- Something that ended a run, with its causes, the nearest one first. -/
structure Complaint where
  headline : String
  causes : List String

namespace Complaint

/-- A text whose further lines are moved in. -/
def indented (margin : String) (text : String) : String :=
  String.ofList (text.toList.flatMap fun char =>
    if char = '\n' then '\n' :: margin.toList else [char])

def numberedCause (cause : String) (number : Nat) : String :=
  let digits := toString number
  let margin := String.ofList (List.replicate (5 - digits.length) ' ')
  margin ++ digits ++ ": " ++ indented "       " cause

def causeLines : List String → List String
  | [] => []
  | [cause] => ["", "Caused by:", "    " ++ indented "    " cause]
  | causes => ["", "Caused by:"] ++ causes.zipIdx.map fun (cause, number) =>
      numberedCause cause number

def report (complaint : Complaint) : String :=
  let lines := ("Error: " ++ complaint.headline) :: causeLines complaint.causes
  String.join (lines.map (· ++ "\n"))

def outcome (complaint : Complaint) : Outcome := ⟨1, "", complaint.report⟩

def ofLoadError (path : String) (error : LoadError) : Complaint :=
  ⟨"failed to load " ++ path, [error.message, error.cause]⟩

/-- The grammar file holds a key that is not a character. -/
def ofKeyError (error : KeyError) : Complaint :=
  ⟨"invalid grammar file", [error.message]⟩

def ofCreateFault (path : String) (fault : Fault) : Complaint :=
  ⟨"failed to create " ++ path, [fault.message]⟩

def ofDocumentError (error : DocumentError) : Complaint :=
  match error with
  | .render _ => ⟨error.message, []⟩
  | .output fault => ⟨error.message, [fault.message]⟩

end Complaint

def success (output : String) : Outcome := ⟨0, output, ""⟩

def usageOutcome : Outcome := ⟨2, "", ""⟩

def versionText : String := "lsystem-turtle 0.1.0\n"

def helpText : String := String.join ([
  "Render an L-System grammar file as Encapsulated PostScript",
  "",
  "Usage: lsystem-turtle [OPTIONS] <CONFIG> <ITERATIONS>",
  "",
  "Arguments:",
  "  <CONFIG>      JSON grammar file",
  "  <ITERATIONS>  Number of rewriting rounds",
  "",
  "Options:",
  "  -o, --output <OUTPUT>  Write the document here instead of stdout",
  "      --seed <SEED>      Seed for picking between alternative rules (overrides the file)",
  "  -v, --verbose          ",
  "  -h, --help             Print help",
  "  -V, --version          Print version"
].map (· ++ "\n"))

/-- The grammar to be rendered, with the seed asked for. -/
def Request.grammar (request : Request) (grammar : Grammar) : Grammar :=
  match request.seed? with
  | none => grammar
  | some seed => grammar.setSeed seed

/-- The document asked for, in full or as far as it goes. -/
def Request.document (request : Request) (grammar : Grammar) (start : SilentTurtle) :
    Except DocumentError Box × Channel Paper :=
  (DocumentStyle.ofTitle request.config).render (request.grammar grammar) start request.rounds
    (.ofDevice {})

variable {m : Type → Type} [Monad m] [FileAccess m]

def Request.renderToOutput (request : Request) (grammar : Grammar) (start : SilentTurtle) :
    Outcome :=
  match request.document grammar start with
  | (.error error, _) => (Complaint.ofDocumentError error).outcome
  | (.ok _, channel) => success (String.fromUTF8? channel.received |>.getD "")

def Request.renderToFile (request : Request) (grammar : Grammar) (start : SilentTurtle)
    (path : String) : m Outcome := do
  match ← FileAccess.create path with
  | .error fault => return (Complaint.ofCreateFault path fault).outcome
  | .ok () =>
    let (result, channel) := request.document grammar start
    match ← FileAccess.fill path channel.received with
    | .error fault => return (Complaint.ofDocumentError (.output fault)).outcome
    | .ok () =>
      match result with
      | .error error => return (Complaint.ofDocumentError error).outcome
      | .ok _ => return success ""

def Request.run (request : Request) : m Outcome := do
  match ← GrammarFile.load request.config with
  | .error error => return (Complaint.ofLoadError request.config error).outcome
  | .ok file =>
    match file.build with
    | .error error => return (Complaint.ofKeyError error).outcome
    | .ok (grammar, start) =>
      match request.output? with
      | none => return request.renderToOutput grammar start
      | some path => request.renderToFile grammar start path

def run (arguments : List String) : m Outcome := do
  match parse arguments with
  | none => return usageOutcome
  | some .showVersion => return success versionText
  | some .showHelp => return success helpText
  | some (.render request) => request.run

end Lindenmayer.CommandLine
