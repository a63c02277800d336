import ModemBench.Bench.Host
import ModemBench.Bench.Rig
import ModemBench.Dialogue
/-!
The whole bench: a port with a modem behind it and a host around it, answering every question
that a dialogue may put.
-/

namespace ModemBench

structure Bench where
  rig : Rig := {}
  host : Host := {}
  /-- How making the host ready fails, and how connecting does. -/
  prepareFault : Option PreparationError := none
  connectFault : Option PortError := none
deriving Repr, Inhabited

namespace Bench

def prepare (b : Bench) : Except PreparationError Unit :=
  match b.prepareFault with
  | some e => .error e
  | none => .ok ()

def connect (serial : Serial) (verbose : Bool) (b : Bench) : Except LinkError Line :=
  match b.connectFault with
  | some e => .error (.openFailed serial.port e)
  | none => .ok ⟨serial.port, verbose⟩

/-- Why what stands at a path is no serial port, if it is none. -/
def attachFault? (port : String) (disk : Disk) : Option PortError :=
  if port.contains '\x00' then some (.serial SystemError.badArgument.text)
  else match disk.find System.work port with
    | .ok (_, .device) => none
    | .ok (_, .folder) => some (.serial SystemError.isFolder.text)
    | .ok (_, .file _ _) | .ok (_, .program _) | .ok (_, .nowhere) =>
      some (.serial "Not a typewriter")
    | .error .missing => some (.notFound port)
    | .error .denied => some (.busy (port ++ ": " ++ SystemError.denied.text))
    | .error e => some (.serial e.text)

/-- Opens a device. From then on an empty read lasts the read timeout. -/
def attach (serial : Serial) (b : Bench) : Except PortError Unit × Bench :=
  match attachFault? serial.port b.host.disk with
  | some e => (.error e, b)
  | none =>
    (.ok (), { b with
      rig.silenceTime := serial.readTimeout.toNat * 1000
      rig.handshake := serial.flowControl == .software })

def onRig {α : Type} (b : Bench) (result : α × Rig) : α × Bench :=
  (result.1, { b with rig := result.2 })

instance : World Bench where
  answer
    | .write bytes, b => b.onRig (b.rig.write bytes)
    | .flush, b => b.onRig b.rig.flush
    | .read cap, b => b.onRig (b.rig.read cap)
    | .clear, b => b.onRig b.rig.clear
    | .clock, b => (b.rig.now, b)
    | .tellable _, b => (true, b)
    | .sleep duration, b => ((), { b with rig := b.rig.sleep duration })
    | .note _, b => ((), b)
    | .prepare _, b => (b.prepare, b)
    | .connect serial verbose, b => (b.connect serial verbose, b)
    | .start program arguments, b =>
      let (result, host) := b.host.start program arguments
      (result, { b with host })
    | .attach serial, b => b.attach serial
    | .print text, b => ((), { b with host := b.host.print text })
    | .complain text, b => ((), { b with host := b.host.complain text })

end Bench

end ModemBench
