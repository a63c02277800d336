import ModemBench.Bench.Disk
import ModemBench.Text.Raw
/-!
A machine that programs run on: its disk, what they have printed, and what they have open. Open
files are shared by number, so that all who have one read and write from one place on.
-/

namespace ModemBench

/-- Where the bytes of an open file come from and go to. -/
inductive Stream where
  | output
  | errors
  /-- Holds nothing, and takes everything. -/
  | nowhere
  | file (place : Place)
  /-- A row of bytes that is no file, by its number. -/
  | buffer (number : Nat)
deriving Repr, DecidableEq

structure OpenFile where
  stream : Stream
  offset : Nat := 0
  appends : Bool := false
  reads : Bool := false
  writes : Bool := false
deriving Repr, DecidableEq

/-- Processes have numbers, and so have the signals that are on their way to them. -/
structure Machine where
  disk : Disk := {}
  output : Bytes := []
  errors : Bytes := []
  files : Array OpenFile := #[]
  buffers : Array Bytes := #[]
  processes : Nat := 1
  signals : List (Nat × Nat) := []
deriving Repr, Inhabited

namespace Machine

def openFile (f : OpenFile) (m : Machine) : Nat × Machine :=
  (m.files.size, { m with files := m.files.push f })

/-- A fresh buffer that holds some bytes. -/
def addBuffer (bytes : Bytes) (m : Machine) : Nat × Machine :=
  (m.buffers.size, { m with buffers := m.buffers.push bytes })

def addProcess (m : Machine) : Nat × Machine :=
  (m.processes + 1, { m with processes := m.processes + 1 })

/-- All the bytes behind a stream that can be read. -/
def content (m : Machine) : Stream → Bytes
  | .output | .errors | .nowhere => []
  | .buffer n => m.buffers.getD n []
  | .file place =>
    match m.disk.at? place with
    | some (.file bytes _) => bytes
    | some (.program _) => [0x7F, 0xFF]
    | _ => []

/-- Bytes put over others from a place on; a gap before them is filled with zeros. -/
def overlay (old : Bytes) (offset : Nat) (bytes : Bytes) : Bytes :=
  let size := old.length
  if offset = size then old ++ bytes
  else
    old.take offset ++ List.replicate (offset - size) 0 ++ bytes ++ old.drop (offset + bytes.length)

/-- The bytes that can still be read from an open file. -/
def ahead? (n : Nat) (m : Machine) : Option Bytes :=
  match m.files[n]? with
  | some f => if f.reads then some ((m.content f.stream).drop f.offset) else none
  | none => none

def advance (n count : Nat) (m : Machine) : Machine :=
  { m with files := m.files.modify n fun f => { f with offset := f.offset + count } }

/-- Writes to an open file, if that is possible. A file that has been removed takes bytes, too. -/
def write? (n : Nat) (bytes : Bytes) (m : Machine) : Option Machine :=
  match m.files[n]? with
  | none => none
  | some f =>
    if !f.writes then none
    else match f.stream with
      | .output => some { m with output := m.output ++ bytes }
      | .errors => some { m with errors := m.errors ++ bytes }
      | .nowhere => some m
      | .buffer k => some { m with buffers := m.buffers.modify k (· ++ bytes) }
      | .file place =>
        match m.disk.at? place with
        | some (.file old mode) =>
          let offset := if f.appends then old.length else f.offset
          let stored := Stored.file (overlay old offset bytes) mode
          let moved := { f with offset := offset + bytes.length }
          some { m with disk := m.disk.put place stored, files := m.files.set! n moved }
        | _ => some m

end Machine

end ModemBench
