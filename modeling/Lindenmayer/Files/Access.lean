import Lindenmayer.Fault

/-!
# Access to files

The program reads one file and may write another. Both go through a small
interface, so that a run can be carried out on real files or on a disk that is a
plain value.
-/

namespace Lindenmayer

/-- What a program can do with files. -/
class FileAccess (m : Type → Type) where
  read : (path : String) → m (Except Fault ByteArray)
  /-- Makes an empty file, or empties an existing one. -/
  create : (path : String) → m (Except Fault Unit)
  /-- Fills a file that has been made before. -/
  fill : (path : String) → (contents : ByteArray) → m (Except Fault Unit)

end Lindenmayer
