import Lindenmayer.Files.Access
import Lindenmayer.GrammarFile.Text

/-!
# Loading grammar files

A grammar file is loaded from bytes, which must be text.
-/

namespace Lindenmayer

/-- Why a grammar file was not loaded. -/
inductive LoadError where
  | unreadable (fault : Fault)
  | malformed (error : Json.Error)

namespace LoadError

/-- What lies behind the error, in words. -/
def cause : LoadError → String
  | unreadable fault => fault.message
  | malformed error => error.message

def message : LoadError → String
  | unreadable fault => "i/o error: " ++ fault.message
  | malformed error => "json error: " ++ error.message

end LoadError

namespace GrammarFile

def ofBytes (bytes : ByteArray) : Except LoadError GrammarFile :=
  match String.fromUTF8? bytes with
  | none => .error (.unreadable .notText)
  | some text =>
    match ofText text with
    | .ok file => .ok file
    | .error error => .error (.malformed error)

def load {m : Type → Type} [Monad m] [FileAccess m] (path : String) :
    m (Except LoadError GrammarFile) := do
  match ← FileAccess.read path with
  | .ok bytes => return ofBytes bytes
  | .error fault => return .error (.unreadable fault)

end GrammarFile

end Lindenmayer
