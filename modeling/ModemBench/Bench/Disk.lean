import ModemBench.Bench.Disk.System
import ModemBench.Surroundings
/-!
A small file tree. A place in it is given by the names from the root down to it; a path is walked
part by part, from the root or from a folder.
-/

namespace ModemBench

/-- What is stored where, besides what the system has. -/
structure Disk where
  entries : List (List String × Stored) := []
deriving Repr, Inhabited

/-- The names from the root of the tree. -/
abbrev Place := List String

namespace Disk

def at? (d : Disk) (place : Place) : Option Stored :=
  if place.isEmpty then some .folder
  else (d.entries.lookup place).or (System.entries.lookup place)

def put (place : Place) (stored : Stored) (d : Disk) : Disk :=
  ⟨(place, stored) :: d.entries.filter (·.1 ≠ place)⟩

/-- Without a place and all that is below it. -/
def remove (place : Place) (d : Disk) : Disk :=
  ⟨d.entries.filter fun (other, _) => !place.isPrefixOf other⟩

/-- The names in a folder, in order. -/
def children (place : Place) (d : Disk) : List String :=
  let names := (d.entries ++ System.entries).filterMap fun (other, _) =>
    if place.isPrefixOf other ∧ other.length = place.length + 1 then other.getLast? else none
  names.eraseDups.mergeSort (· ≤ ·)

/-- Puts what is at one place, and all that is below it, to another. -/
def move (source target : Place) (d : Disk) : Disk :=
  let moved := d.entries.filterMap fun (place, stored) =>
    if source.isPrefixOf place then some (target ++ place.drop source.length, stored) else none
  ⟨moved ++ ((d.remove source).remove target).entries⟩

/-- The parts of a path between its slashes. -/
def parts (path : String) : List String :=
  path.splitOn "/"

/-- Stores something below the folder that is worked in, and the folders above it where they are
missing. -/
def store (path : String) (stored : Stored) (d : Disk) : Disk :=
  let names := System.work ++ (parts path).filter fun part => part ≠ "" ∧ part ≠ "."
  let above := (List.range names.length).filterMap fun n =>
    if (d.at? (names.take n)).isSome then none else some (names.take n)
  (above.foldl (fun d place => d.put place .folder) d).put names stored

/-- The most bytes that one part of a path has. -/
def longestPart : Nat := 255

/-- The most bytes that a path has. -/
def longestPath : Nat := 4095

/-- One part further along a path. -/
def enter (d : Disk) (place : Place) (part : String) : Except SystemError Place :=
  match d.at? place with
  | none => .error .missing
  | some .folder =>
    if part = "" ∨ part = "." then .ok place
    else if longestPart < part.utf8ByteSize then .error .nameTooLong
    else if part = ".." then .ok place.dropLast
    else .ok (place ++ [part])
  | some _ => .error .throughFile

/-- Where a path leads from a folder. Its last part may be missing. -/
def resolve (d : Disk) (folder : Place) (path : String) : Except SystemError Place :=
  if path.isEmpty then .error .missing
  else if longestPath < path.utf8ByteSize then .error .nameTooLong
  else (parts path).foldlM d.enter (if path.toList.head? = some '/' then [] else folder)

/-- What stands at a path, and where. -/
def find (d : Disk) (folder : Place) (path : String) : Except SystemError (Place × Stored) :=
  match d.resolve folder path with
  | .error e => .error e
  | .ok place =>
    match d.at? place with
    | some stored => .ok (place, stored)
    | none => .error .missing

/-- A program shows bytes that are no text. -/
def look (d : Disk) (path : String) : Sight :=
  match d.find System.work path with
  | .error e => .absent e
  | .ok (_, .folder) => .folder
  | .ok (_, .file bytes _) => .file bytes
  | .ok (_, .program _) => .file [0x7F, 0xFF]
  | .ok (_, .device) | .ok (_, .nowhere) => .file []

/-- What can be started at a path. Folders, and files that are no programs, are refused. -/
def runnable (d : Disk) (folder : Place) (path : String) : Except SystemError (Place × Stored) :=
  match d.find folder path with
  | .ok (place, stored) => if stored.runs then .ok (place, stored) else .error .denied
  | .error e => .error e

/-- Goes through folders where a program may be. One that is there but cannot be started is only
told of if there is no other. -/
def search (d : Disk) (folder : Place) (name : String) (refused : Bool) :
    List String → Except SystemError String
  | [] => .error (if refused then .denied else .missing)
  | place :: rest =>
    let path := if place.isEmpty then name else place ++ "/" ++ name
    match d.runnable folder path with
    | .ok _ => .ok path
    | .error .denied => d.search folder name true rest
    | .error .missing | .error .throughFile => d.search folder name refused rest
    | .error e => .error e

/-- The path of the program that is meant. One without a slash is looked for in the folders of
`path`. -/
def program (d : Disk) (folder : Place) (path name : String) : Except SystemError String :=
  if name = "" then .error .missing
  else if name.contains '/' then (d.runnable folder name).map fun _ => name
  else if longestPart < name.utf8ByteSize then .error .nameTooLong
  else d.search folder name false (path.splitOn ":")

/-- Where a file may be written to, which is made if it is missing. -/
def writable (d : Disk) (folder : Place) (path : String) : Except SystemError Place :=
  match d.resolve folder path with
  | .error e => .error e
  | .ok place =>
    match d.at? place with
    | some .folder => .error .isFolder
    | some (.program _) => .error .denied
    | some _ | none => .ok place

end Disk

end ModemBench
