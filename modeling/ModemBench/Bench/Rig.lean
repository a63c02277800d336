import ModemBench.Bench.Modem
/-!
A port for tests: a scripted modem behind counted calls, with faults at chosen calls and a clock
that moves by set amounts.
-/

namespace ModemBench

inductive PortCall where
  | write
  | flush
  | read
  | clear
deriving Repr, DecidableEq

/-- What a call does instead of its work. -/
inductive Fault where
  /-- Nothing is taken, or nothing arrives. -/
  | nothing
  | error (e : PortError)
deriving Repr, DecidableEq

/-- Times are in microseconds. -/
structure Rig where
  modem : Modem := {}
  faults : List ((PortCall × Nat) × Fault) := []
  /-- The reads after this many fail. -/
  readLimit : Nat := 2000
  writeTime : Nat := 0
  dataTime : Nat := 0
  silenceTime : Nat := 0
  now : Nat := 0
  /-- The sleeps so far, in milliseconds. -/
  sleeps : List Nat := []
  writes : Nat := 0
  flushes : Nat := 0
  reads : Nat := 0
  clears : Nat := 0
  /-- Whether the modem may stop and start what is sent to it, by bytes among its own. -/
  handshake : Bool := false
  stopped : Bool := false
deriving Repr, DecidableEq, Inhabited

namespace Rig

/-- Sets a fault for one call; a later fault for the same call replaces it. -/
def setFault (call : PortCall) (number : Nat) (fault : Fault) (r : Rig) : Rig :=
  { r with faults := ((call, number), fault) :: r.faults }

def onModem (f : Modem → Modem) (r : Rig) : Rig :=
  { r with modem := f r.modem }

def startByte : UInt8 := 0x11

def stopByte : UInt8 := 0x13

def isFlowByte (b : UInt8) : Bool := b == startByte || b == stopByte

/-- Obeys the flow bytes that have arrived. They are not read by anyone. -/
def obey (r : Rig) : Rig :=
  if r.handshake then
    { r with
      stopped := match (r.modem.waiting.filter isFlowByte).getLast? with
        | some b => b == stopByte
        | none => r.stopped
      modem.waiting := r.modem.waiting.filter (!isFlowByte ·) }
  else r

def write (bytes : Bytes) (r : Rig) : Except PortError Nat × Rig :=
  let r := { r with writes := r.writes + 1 }
  match r.faults.lookup (.write, r.writes) with
  | some .nothing => (.ok 0, r)
  | some (.error e) => (.error e, r)
  | none =>
    if r.stopped then (.error Modem.outOfTime, { r with now := r.now + r.silenceTime })
    else
      let (taken, modem) := r.modem.write bytes
      (taken, obey { r with modem, now := r.now + r.writeTime })

def flush (r : Rig) : Except PortError Unit × Rig :=
  let r := { r with flushes := r.flushes + 1 }
  match r.faults.lookup (.flush, r.flushes) with
  | some (.error e) => (.error e, r)
  | some .nothing | none => (.ok (), r)

def read (cap : Nat) (r : Rig) : Except PortError Bytes × Rig :=
  let r := { r with reads := r.reads + 1 }
  if r.readLimit < r.reads then (.error (.ofKind .brokenPipe), r)
  else
    match r.faults.lookup (.read, r.reads) with
    | some .nothing => (.ok [], r)
    | some (.error e) => (.error e, r)
    | none =>
      match r.modem.read cap with
      | (.ok bytes, modem) => (.ok bytes, { r with modem, now := r.now + r.dataTime })
      | (.error e, modem) => (.error e, { r with modem, now := r.now + r.silenceTime })

def clear (r : Rig) : Except PortError Unit × Rig :=
  let r := { r with clears := r.clears + 1 }
  match r.faults.lookup (.clear, r.clears) with
  | some (.error e) => (.error e, r)
  | some .nothing | none => (.ok (), { r with modem := r.modem.clear })

def sleep (duration : Nat) (r : Rig) : Rig :=
  { r with now := r.now + duration * 1000, sleeps := r.sleeps ++ [duration] }

/-- The reads left before they fail, and one for the failure. No wait takes more. -/
def patience (r : Rig) : Nat := r.readLimit - r.reads + 1

end Rig

end ModemBench
