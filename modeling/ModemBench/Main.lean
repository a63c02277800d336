import ModemBench.CommandLine.Program
/-!
The program itself: dialogues held with the machine it runs on. The line settings of the device
are the host's business, and so is how long a read may last: an empty read is one that timed out.
-/

namespace ModemBench.Machine

def ioFault (e : IO.Error) : PortError := .io .other (toString e)

def guarded {α : Type} (action : IO α) : IO (Except PortError α) := do
  try return .ok (← action)
  catch e => return .error (ioFault e)

def openDevice (port : String) : IO (Except PortError IO.FS.Handle) := do
  try return .ok (← IO.FS.Handle.mk port .readWrite)
  catch e =>
    match e with
    | .noFileOrDirectory .. => return .error (.notFound port)
    | .permissionDenied .. => return .error (.busy (toString e))
    | _ => return .error (.serial (toString e))

def readDevice (device : IO.FS.Handle) (cap : Nat) : IO (Except PortError Bytes) := do
  match ← guarded (device.read (.ofNat cap)) with
  | .error e => return .error e
  | .ok chunk =>
    if chunk.isEmpty then return .error (.io .timedOut "Operation timed out")
    return .ok chunk.data.toList

/-- What is done with the device, if it has been opened. -/
def withDevice {α : Type} (device : IO.Ref (Option IO.FS.Handle))
    (action : IO.FS.Handle → IO (Except PortError α)) : IO (Except PortError α) := do
  match ← device.get with
  | some d => action d
  | none => return .error (.ofKind .other)

def rest (duration : Nat) : IO Unit := do
  for _ in [0 : duration / 1000000] do
    IO.sleep 1000000
  IO.sleep (.ofNat (duration % 1000000))

/-- The first time that the clock cannot tell, which counts its seconds with 63 bits. -/
def clockEnd : Nat := 9223372036854775808 * 1000000

/-- Answers a question. No other program is started from here. -/
def answer (device : IO.Ref (Option IO.FS.Handle)) : (q : Ask) → IO q.Answer
  | .write bytes => withDevice device fun d => guarded do
    d.write ⟨bytes.toArray⟩
    return bytes.length
  | .flush => withDevice device fun d => guarded d.flush
  | .read cap => withDevice device fun d => readDevice d cap
  | .clear => withDevice device fun _ => return .ok ()
  | .clock => return (← IO.monoNanosNow) / 1000
  | .tellable time => return decide (time < clockEnd)
  | .sleep duration => rest duration
  | .note _ => return ()
  | .prepare _ => return .ok ()
  | .connect serial verbose => return .ok ⟨serial.port, verbose⟩
  | .start _ _ => return .error "Operation not supported (os error 95)"
  | .attach serial => do
    match ← openDevice serial.port with
    | .ok d =>
      device.set (some d)
      return .ok ()
    | .error e => return .error e
  | .print text => do (← IO.getStdout).putStr text
  | .complain text => do (← IO.getStderr).putStr text

def converse {α : Type} (answerer : (q : Ask) → IO q.Answer) : Dialogue α → IO (Except Halt α)
  | .done a => return .ok a
  | .halted why => return .error why
  | .ask q next => do
    let found ← answerer q
    converse answerer (next found)

/-- The number of a refusal by the system, which may be given with its sign changed. -/
def refusalOf (code : UInt32) (text : String) : SystemError :=
  let number := min code.toNat (0 - code).toNat
  let known : List SystemError := [.missing, .denied, .throughFile, .isFolder, .nameTooLong]
  (known.find? (·.number = number)).getD (.other number text)

def refusal : IO.Error → SystemError
  | .noFileOrDirectory _ code text | .permissionDenied _ code text
  | .inappropriateType _ code text | .invalidArgument _ code text
  | .resourceExhausted _ code text | .noSuchThing _ code text | .alreadyExists _ code text
  | .interrupted _ code text | .otherError code text | .resourceBusy code text
  | .resourceVanished code text | .unsupportedOperation code text | .hardwareFault code text
  | .unsatisfiedConstraints code text | .illegalOperation code text | .protocolError code text
  | .timeExpired code text => refusalOf code text
  | .unexpectedEof => .other 0 "unexpected end of file"
  | .userError text => .other 0 text

/-- Something is there if its path leads to it, whether it can be read or not. -/
def look (path : String) : IO Sight := do
  let found ← try
      discard <| IO.FS.realPath path
      pure true
    catch _ => pure false
  try return .file (← IO.FS.readBinFile path).data.toList
  catch e =>
    match found, refusal e with
    | false, e => return .absent e
    | true, .isFolder => return .folder
    | true, e => return .closed e

/-- What stands before the first such byte, and what stands behind it. -/
def cut (mark : UInt8) (bytes : Bytes) : Bytes × Bytes :=
  (bytes.takeWhile (· ≠ mark), (bytes.dropWhile (· ≠ mark)).drop 1)

def entries (fuel : Nat) (bytes : Bytes) : List Bytes :=
  match fuel, bytes with
  | 0, _ | _, [] => []
  | fuel + 1, bytes => (cut 0 bytes).1 :: entries fuel (cut 0 bytes).2

/-- The variables as the system hands them over. -/
def environment : IO (List (Bytes × Bytes)) := do
  let bytes := (← IO.FS.readBinFile "/proc/self/environ").data.toList
  return (entries bytes.length bytes).map (cut 0x3D)

/-- What is found around the program when it starts. -/
def surroundings (invocation : CommandLine.Invocation) : IO Surroundings := do
  let set ← environment
  let around : Surroundings :=
    ⟨fun name => set.lookup (Text.encode name), fun _ => .absent .missing⟩
  let chosen := match invocation with
    | .run a => a.config.toList
    | _ => []
  let sights ← (chosen ++ Settings.candidates around).mapM fun path => do return (path, ← look path)
  return { around with look := fun path => (sights.lookup path).getD default }

/-- Reads that one wait may take. Nobody waits that long. -/
def patience : Nat := 18446744073709551616

end ModemBench.Machine

open ModemBench in
def main (words : List String) : IO UInt32 := do
  let invocation := CommandLine.invocation words
  let around ← Machine.surroundings invocation
  let device ← IO.mkRef none
  let dialogue := CommandLine.program words around Machine.patience
  match ← Machine.converse (Machine.answer device) dialogue with
  | .ok code => return .ofNat code
  | .error .impatience => return 3
  | .error .overflow =>
    (← IO.getStderr).putStrLn "overflow when adding duration to instant"
    return 101
