/-!
# Paths and places

A path is a text with slashes. It is taken apart into the steps between the
slashes, and following the steps one by one leads from place to place. Several
slashes in a row count as one, and a slash at the end asks for a directory.

Places are named by the way down from one of the directories that are known
without a name: the root of the system, the working directory, and the
directories above the working directory.
-/

namespace Lindenmayer

/-- A directory that is known without a name. -/
inductive Origin where
  | systemRoot
  /-- The directory so many levels above the working directory. -/
  | above (levels : Nat)
deriving DecidableEq, Repr

/-- A place for a file or a directory, which need not be there. -/
structure Location where
  origin : Origin
  /-- The names on the way down from the origin. -/
  names : List String
deriving DecidableEq, Repr

namespace Location

def workingDirectory : Location := ⟨.above 0, []⟩

def systemRoot : Location := ⟨.systemRoot, []⟩

/-- The directory that a place is in; the root is in itself. -/
def parent (location : Location) : Location :=
  match location.names, location.origin with
  | [], .systemRoot => systemRoot
  | [], .above levels => ⟨.above (levels + 1), []⟩
  | first :: rest, origin => ⟨origin, (first :: rest).dropLast⟩

def child (location : Location) (name : String) : Location :=
  { location with names := location.names ++ [name] }

/-- Whether a place is on the way down to another one, and is not that one itself. -/
def isAbove (upper lower : Location) : Bool :=
  upper.origin = lower.origin && upper.names.length < lower.names.length &&
    lower.names.take upper.names.length = upper.names

end Location

inductive PathStep where
  | stay
  | up
  | down (name : String)
deriving DecidableEq, Repr

namespace PathStep

def ofText (text : String) : PathStep :=
  if text = "." then stay else if text = ".." then up else down text

def longestName : Nat := 255

/-- Whether a step has a name of more bytes than names may have. -/
def isTooLong : PathStep → Bool
  | down name => longestName < name.utf8ByteSize
  | _ => false

end PathStep

def Location.follow (location : Location) : PathStep → Location
  | .stay => location
  | .up => location.parent
  | .down name => location.child name

structure Route where
  /-- Where it begins: the root of the system or the working directory. -/
  start : Location
  steps : List PathStep
  /-- Whether there is a slash at the end. -/
  asksForDirectory : Bool
deriving Repr

namespace Route

def splitPath : List Char → List (List Char)
  | [] => [[]]
  | char :: rest =>
    if char = '/' then
      [] :: splitPath rest
    else
      match splitPath rest with
      | [] => [[char]]
      | part :: parts => (char :: part) :: parts

def ofText (path : String) : Route where
  start := if path.toList.head? = some '/' then .systemRoot else .workingDirectory
  steps :=
    ((splitPath path.toList).filter (!·.isEmpty)).map fun part => .ofText (String.ofList part)
  asksForDirectory := path.toList.getLast? = some '/'

/-- The place that the steps lead to if nothing is in the way. -/
def destination (route : Route) : Location :=
  route.steps.foldl Location.follow route.start

/-- Whether the last step names something that is to be a directory. -/
def namesDirectory (route : Route) : Bool :=
  match route.steps.getLast? with
  | some (.down _) => route.asksForDirectory
  | _ => false

/-- Whether the last step has a name that is too long. -/
def endIsTooLong (route : Route) : Bool :=
  route.steps.getLast?.any PathStep.isTooLong

end Route

end Lindenmayer
