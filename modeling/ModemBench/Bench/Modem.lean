import ModemBench.Port.Error
import ModemBench.Text.Quoted
import ModemBench.Text.Utf8
/-!
A scripted modem. Each line it receives releases the next reply of its script, at once or after
some reads have come back empty.
-/

namespace ModemBench

structure Reply where
  bytes : Bytes
  /-- Empty reads before the reply can be read. -/
  delay : Nat
deriving Repr, DecidableEq

structure Modem where
  /-- Bytes that can be read. -/
  waiting : Bytes := []
  /-- Replies not yet released. -/
  script : List Reply := []
  /-- Replies released but still on their way, with the empty reads left. -/
  underway : List Reply := []
  /-- What each write brought, in order. -/
  writes : List Bytes := []
  /-- The line being received, its last byte first. -/
  held : Bytes := []
  /-- Lines received, with their ends. -/
  lines : List Bytes := []
  maxWrite : Option Nat := none
  maxRead : Option Nat := none
  /-- Reads that found nothing. -/
  emptyReads : Nat := 0
  /-- How the next write fails. -/
  writeFault : Option IoKind := none
  /-- How the write fails that would begin a line, counted from one. -/
  lineFault : Option (Nat × IoKind) := none
deriving Repr, DecidableEq, Inhabited

namespace Modem

def enqueue (bytes : Bytes) (m : Modem) : Modem :=
  { m with waiting := m.waiting ++ bytes }

def scriptReply (r : Reply) (m : Modem) : Modem :=
  { m with script := m.script ++ [r] }

def scriptReplies (replies : List Bytes) (m : Modem) : Modem :=
  { m with script := m.script ++ replies.map (⟨·, 0⟩) }

/-- A modem that takes nothing at all would never be written to, so one byte is the least. -/
def limitWrites (n : Nat) (m : Modem) : Modem :=
  { m with maxWrite := some (max n 1) }

def limitReads (n : Nat) (m : Modem) : Modem :=
  { m with maxRead := some (max n 1) }

def failNextWrite (kind : IoKind) (m : Modem) : Modem :=
  { m with writeFault := some kind }

def failLine (line : Nat) (kind : IoKind) (m : Modem) : Modem :=
  { m with lineFault := some (line, kind) }

/-- The texts of the lines received. -/
def lineTexts (m : Modem) : List String := m.lines.map Text.decode

/-- Lets the next reply of the script go. -/
def release (m : Modem) : Modem :=
  match m.script with
  | [] => m
  | r :: rest =>
    if r.delay = 0 then { m with script := rest, waiting := m.waiting ++ r.bytes }
    else { m with script := rest, underway := m.underway ++ [r] }

/-- Takes in one byte. -/
def accept (m : Modem) (b : UInt8) : Modem :=
  let held := b :: m.held
  if b = 0x0A then release { m with held := [], lines := m.lines ++ [held.reverse] }
  else { m with held := held }

/-- The fault that a write meets, and the modem without it. -/
def writeFault? (m : Modem) : Option (IoKind × Modem) :=
  match m.writeFault with
  | some kind => some (kind, { m with writeFault := none })
  | none =>
    match m.lineFault with
    | some (line, kind) =>
      if m.held = [] ∧ m.lines.length + 1 = line then some (kind, { m with lineFault := none })
      else none
    | none => none

def write (bytes : Bytes) (m : Modem) : Except PortError Nat × Modem :=
  match m.writeFault? with
  | some (kind, m) => (.error (.ofKind kind), m)
  | none =>
    let taken := match m.maxWrite with
      | some cap => bytes.take cap
      | none => bytes
    (.ok taken.length, taken.foldl accept { m with writes := m.writes ++ [taken] })

/-- One empty read less for every reply underway; those that have none left can be read. -/
def land (m : Modem) : Modem :=
  let nearer := m.underway.map fun r => { r with delay := r.delay - 1 }
  let landed := nearer.filter (·.delay = 0)
  { m with
    underway := nearer.filter (·.delay ≠ 0)
    waiting := m.waiting ++ landed.flatMap Reply.bytes }

def outOfTime : PortError := .io .timedOut "Operation timed out"

def read (cap : Nat) (m : Modem) : Except PortError Bytes × Modem :=
  let n := match m.maxRead with
    | some most => min most cap
    | none => cap
  match m.waiting.take n with
  | [] => (.error outOfTime, land { m with emptyReads := m.emptyReads + 1 })
  | bytes => (.ok bytes, { m with waiting := m.waiting.drop n })

/-- Drops what can be read and the line being received. Replies are not touched. -/
def clear (m : Modem) : Modem :=
  { m with waiting := [], held := [] }

/-- A short description for people. -/
def describe (name : String) (m : Modem) : String :=
  "MockSerialPort \x7b name: " ++ Text.quoted name ++ ", available_bytes: " ++
    toString m.waiting.length ++ ", pending_replies: " ++ toString m.script.length ++ " \x7d"

end Modem

end ModemBench
