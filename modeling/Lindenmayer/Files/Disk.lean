import Lindenmayer.Files.Access
import Lindenmayer.Files.Route

/-!
# Disks

A disk that is a plain value: files by place. The directories are those on the
way to files, those known without a name, and those that every system has.

Some devices are always there. Most of them take whatever is written and keep
nothing, one never has room, and the standard streams keep what is written to
them. To read, a device is empty. Devices that deliver without end are no
exception here, since nobody who reads them to the end gets there.

A path is followed step by step. All steps but the last must lead to
directories; the first one that does not decides what is wrong with the path.
What the last step leads to need not exist. To read, it must be a file; to make
a file, it must not be a directory, and a path that ends in a slash asks for a
directory whatever is there.
-/

namespace Lindenmayer

structure Disk where
  files : List (Location × ByteArray)

/-- A file that is not an ordinary one. -/
inductive DeviceFile where
  /-- Takes everything and keeps nothing. -/
  | sink
  /-- Never has room. -/
  | full
  /-- Keeps what is written to it. -/
  | stream
deriving DecidableEq, Repr

inductive DiskEntry where
  | file (contents : ByteArray)
  | directory

namespace Disk

def empty : Disk := ⟨[]⟩

def devicePlace (name : String) : Location := ⟨.systemRoot, ["dev", name]⟩

/-- The devices that are always there. -/
def devices : List (Location × DeviceFile) := [
  (devicePlace "null", .sink),
  (devicePlace "zero", .sink),
  (devicePlace "random", .sink),
  (devicePlace "urandom", .sink),
  (devicePlace "full", .full),
  (devicePlace "stdin", .sink),
  (devicePlace "stdout", .stream),
  (devicePlace "stderr", .stream)
]

def device? (location : Location) : Option DeviceFile := devices.lookup location

/-- The named directories that are always there, all of them in the root. -/
def standingDirectories : List String := [
  "bin", "boot", "dev", "etc", "home", "lib", "media", "mnt", "opt", "proc", "root", "run",
  "sbin", "srv", "sys", "tmp", "usr", "var"
]

def isStandingDirectory : Location → Bool
  | ⟨_, []⟩ => true
  | ⟨.systemRoot, [name]⟩ => standingDirectories.contains name
  | _ => false

def hasDirectory (disk : Disk) (location : Location) : Bool :=
  isStandingDirectory location || disk.files.any fun (place, _) => location.isAbove place

def entry? (disk : Disk) (location : Location) : Option DiskEntry :=
  match disk.files.lookup location with
  | some contents => some (.file contents)
  | none =>
    if (device? location).isSome then some (.file ByteArray.empty)
    else if disk.hasDirectory location then some .directory
    else none

def store (disk : Disk) (location : Location) (contents : ByteArray) : Disk :=
  ⟨(location, contents) :: disk.files.filter fun (place, _) => place ≠ location⟩

/-- Writes to a file or device, which must be there. -/
def write (disk : Disk) (location : Location) (contents : ByteArray) : Except Fault Unit × Disk :=
  match device? location with
  | some .sink => (.ok (), disk)
  | some .full => (if contents.isEmpty then .ok () else .error .noSpace, disk)
  | some .stream | none => (.ok (), disk.store location contents)

/-- Puts a file at the end of a path, whatever the disk held there. -/
def put (disk : Disk) (path : String) (contents : ByteArray) : Disk :=
  disk.store (Route.ofText path).destination contents

/-- What has been written to standard output by its name as a file. -/
def standardOutput (disk : Disk) : ByteArray :=
  (disk.files.lookup (devicePlace "stdout")).getD ByteArray.empty

/-! ## Following paths -/

/-- Follows steps from a directory, all of which must lead to directories. -/
def descend (disk : Disk) (here : Location) : List PathStep → Except Fault Location
  | [] => .ok here
  | step :: rest =>
    if step.isTooLong then
      .error .nameTooLong
    else
      match disk.entry? (here.follow step) with
      | none => .error .notFound
      | some (.file _) => .error .notDirectory
      | some .directory => disk.descend (here.follow step) rest

def longestPath : Nat := 4095

/-- Takes a path apart and follows all of its steps but the last, which leads to the place given. -/
def locate (disk : Disk) (path : String) : Except Fault (Route × Location) :=
  let route := Route.ofText path
  if path.isEmpty then
    .error .notFound
  else if longestPath < path.utf8ByteSize then
    .error .nameTooLong
  else
    match disk.descend route.start route.steps.dropLast with
    | .error fault => .error fault
    | .ok directory =>
      .ok (route, route.steps.getLast?.elim directory directory.follow)

def read (disk : Disk) (path : String) : Except Fault ByteArray :=
  match disk.locate path with
  | .error fault => .error fault
  | .ok (route, location) =>
    if route.endIsTooLong then
      .error .nameTooLong
    else
      match disk.entry? location with
      | none => .error .notFound
      | some .directory => .error .isDirectory
      | some (.file contents) =>
        if route.asksForDirectory then .error .notDirectory else .ok contents

/-- Makes or empties the file at the end of a path. -/
def create (disk : Disk) (path : String) : Except Fault Unit × Disk :=
  match disk.locate path with
  | .error fault => (.error fault, disk)
  | .ok (route, location) =>
    if route.namesDirectory then
      (.error .isDirectory, disk)
    else if route.endIsTooLong then
      (.error .nameTooLong, disk)
    else
      match disk.entry? location with
      | some .directory => (.error .isDirectory, disk)
      | _ => disk.write location ByteArray.empty

/-- Fills the file at the end of a path, which must be there. -/
def fill (disk : Disk) (path : String) (contents : ByteArray) : Except Fault Unit × Disk :=
  match disk.locate path with
  | .error fault => (.error fault, disk)
  | .ok (_, location) =>
    match disk.entry? location with
    | none => (.error .notFound, disk)
    | some .directory => (.error .isDirectory, disk)
    | some (.file _) => disk.write location contents

instance : FileAccess (StateM Disk) where
  read path := do return (← get).read path
  create path := modifyGet (·.create path)
  fill path contents := modifyGet (·.fill path contents)

end Disk

end Lindenmayer
