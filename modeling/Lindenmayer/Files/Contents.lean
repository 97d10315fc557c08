import Lindenmayer.Files.Disk

/-!
# What a disk holds

Two disks are compared by what they hold at each place, and by what a path leads to. Not all
that is written stays there: some devices keep nothing.
-/

namespace Lindenmayer.Disk

/-- The place that a path leads to, if there is nothing in the way. -/
def place? (disk : Disk) (path : String) : Option Location :=
  match disk.locate path with
  | .error _ => none
  | .ok (_, location) => some location

/-- What is at the end of a path, if anything is. -/
def entryAt? (disk : Disk) (path : String) : Option DiskEntry :=
  (disk.place? path).bind disk.entry?

/-- Whether nothing of what is written to a place is kept there. -/
def KeepsNothing (location : Location) : Prop :=
  device? location = some .sink ∨ device? location = some .full

instance (location : Location) : Decidable (KeepsNothing location) :=
  inferInstanceAs
    (Decidable (device? location = some .sink ∨ device? location = some .full))

/-- The disk as it is once the file at a place has been made or emptied. -/
def emptied (disk : Disk) (location : Location) : Disk :=
  if KeepsNothing location then disk else disk.store location ByteArray.empty

/-- Whether there are directories all the way down to a place, so that a file can be made there. -/
def HasWayTo (disk : Disk) (location : Location) : Prop :=
  ∀ upper : Location, upper.isAbove location → disk.hasDirectory upper

end Lindenmayer.Disk
