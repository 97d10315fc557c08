import Lindenmayer.CommandLine.Run

/-!
# The program

Carries out a run on the files of the system.
-/

namespace Lindenmayer.CommandLine

/-- What the system says about a failed access to a file. -/
def faultOfSystem : IO.Error → Fault
  | .noFileOrDirectory .. => .notFound
  | .noSuchThing .. => .notFound
  | .inappropriateType _ code _ => if code = 21 then .isDirectory else .notDirectory
  | .invalidArgument _ 36 _ => .nameTooLong
  | .resourceExhausted _ 28 _ => .noSpace
  | error => ⟨toString error⟩

instance : FileAccess IO where
  read path := do
    try
      return .ok (← IO.FS.readBinFile path)
    catch error =>
      return .error (faultOfSystem error)
  create path := do
    try
      IO.FS.writeBinFile path ByteArray.empty
      return .ok ()
    catch error =>
      return .error (faultOfSystem error)
  fill path contents := do
    try
      IO.FS.withFile path .write fun handle => do
        handle.write contents
        handle.flush
      return .ok ()
    catch error =>
      return .error (faultOfSystem error)

end Lindenmayer.CommandLine

def main (arguments : List String) : IO UInt32 := do
  let outcome ← Lindenmayer.CommandLine.run arguments
  (← IO.getStdout).putStr outcome.standardOutput
  (← IO.getStderr).putStr outcome.standardError
  return outcome.exitCode.toUInt32
