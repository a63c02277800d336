import ModemBench.Bench.Machine
import ModemBench.Preparation.Status
/-!
A process on a machine: where it works, what it has open by which number, and what it knows of its
surroundings. Its texts are raw.
-/

namespace ModemBench

structure Job where
  machine : Machine
  /-- The number of the process. -/
  id : Nat := 1
  folder : Place := System.work
  /-- What each channel is connected with, by the numbers of open files. -/
  channels : List (Nat × Nat) := []
  environment : List (String × String) := []
  /-- The rights that files do not get when they are made. -/
  mask : Nat := 0o22
  /-- The signals that do nothing to the process. -/
  ignored : List Nat := []
deriving Repr, Inhabited

/-- What a process does. -/
abbrev Work := StateM Job

namespace Job

/-- What a program finds open: nothing to read, and the two outputs of the machine. -/
def begin (m : Machine) (environment : List (String × String)) : Job :=
  let (input, m) := m.openFile { stream := .nowhere, reads := true }
  let (output, m) := m.openFile { stream := .output, writes := true }
  let (errors, m) := m.openFile { stream := .errors, writes := true }
  { machine := m, channels := [(0, input), (1, output), (2, errors)], environment }

def connect (channel : Nat) (file : Option Nat) (j : Job) : Job :=
  let others := j.channels.filter (·.1 ≠ channel)
  { j with channels := (file.map ((channel, ·))).toList ++ others }

/-- Opens a file for a channel. -/
def openOn (channel : Nat) (f : OpenFile) (j : Job) : Job :=
  let (n, machine) := j.machine.openFile f
  { j with machine }.connect channel (some n)

def disk (j : Job) : Disk := j.machine.disk

def onDisk (f : Disk → Disk) (j : Job) : Job :=
  { j with machine.disk := f j.machine.disk }

/-- Paths are text to a disk. -/
def find (path : String) (j : Job) : Except SystemError (Place × Stored) :=
  j.disk.find j.folder (Text.Raw.toText path)

def resolve (path : String) (j : Job) : Except SystemError Place :=
  j.disk.resolve j.folder (Text.Raw.toText path)

def writable (path : String) (j : Job) : Except SystemError Place :=
  j.disk.writable j.folder (Text.Raw.toText path)

def exists? (path : String) (j : Job) : Bool := (j.find path).isOk

/-- The path of a place. -/
def path (place : Place) : String :=
  Text.Raw.ofText ("/" ++ "/".intercalate place)

def value? (name : String) (j : Job) : Option String := j.environment.lookup name

end Job

namespace Work

/-- Writes to a channel, and says whether that was possible. -/
def write (channel : Nat) (text : String) : Work Bool := do
  let j ← get
  match j.channels.lookup channel with
  | none => return false
  | some n =>
    match j.machine.write? n (Text.Raw.toBytes text.toList) with
    | none => return false
    | some machine =>
      set { j with machine }
      return true

def print (text : String) : Work Unit := do
  let _ ← write 1 text

def complain (text : String) : Work Unit := do
  let _ ← write 2 text

/-- What is left to read on a channel, which is read by that. -/
def readAll (channel : Nat) : Work (Option String) := do
  let j ← get
  match j.channels.lookup channel with
  | none => return none
  | some n =>
    match j.machine.ahead? n with
    | none => return none
    | some bytes =>
      set { j with machine := j.machine.advance n bytes.length }
      return some (String.ofList (Text.Raw.ofBytes bytes))

/-- The next line on a channel with its end, or nothing where there is none. -/
def readLine (channel : Nat) : Work (Option String) := do
  let j ← get
  match j.channels.lookup channel with
  | none => return none
  | some n =>
    match j.machine.ahead? n with
    | none | some [] => return none
    | some bytes =>
      let line := bytes.takeWhile (· != 0x0A)
      let line := if line.length < bytes.length then line ++ [0x0A] else line
      set { j with machine := j.machine.advance n line.length }
      return some (String.ofList (Text.Raw.ofBytes line))

end Work

end ModemBench
