/-!
# Faults of input and output

What the system reports when a file cannot be read, made or filled, or a device
does not take what it is offered.
-/

namespace Lindenmayer

/-- Something that went wrong with input or output. -/
structure Fault where
  message : String
deriving DecidableEq, Repr

namespace Fault

def notFound : Fault := ⟨"No such file or directory (os error 2)"⟩

/-- Something other than a directory is on the way. -/
def notDirectory : Fault := ⟨"Not a directory (os error 20)"⟩

def isDirectory : Fault := ⟨"Is a directory (os error 21)"⟩

/-- A path, or a name in it, is longer than the system allows. -/
def nameTooLong : Fault := ⟨"File name too long (os error 36)"⟩

def noSpace : Fault := ⟨"No space left on device (os error 28)"⟩

def notText : Fault := ⟨"stream did not contain valid UTF-8"⟩

end Fault

end Lindenmayer
