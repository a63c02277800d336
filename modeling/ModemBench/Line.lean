import ModemBench.Dialogue
/-!
The line to the modem. It carries bytes and nothing else: a command goes out with the end of line
behind it, and whatever arrives within one read comes back as it is.
-/

namespace ModemBench

/-- The bytes of a command on the wire. -/
def Command.wire (c : Command) : Bytes :=
  Text.encode c.line ++ [0x0D, 0x0A]

namespace Line

/-- The most that one read takes. -/
def chunkSize : Nat := 256

/-- Offers what is left until all of it is taken, and gives how much was taken in all. -/
def push (line : Line) (total written : Nat) (left : Bytes) : Talk LinkError Nat :=
  if h : left = [] then pure written
  else do
    match ← Dialogue.perform (.write left) with
    | .error e => throw (.writeFailed line.port e)
    | .ok 0 => throw (.writeStalled line.port written total)
    | .ok (n + 1) =>
      have : (left.drop (n + 1)).length < left.length := by
        have := List.length_pos_iff.mpr h
        simp only [List.length_drop]
        omega
      line.push total (written + (n + 1)) (left.drop (n + 1))
termination_by left.length

/-- Sends a command. Nothing is awaited. -/
def send (line : Line) (c : Command) : Talk LinkError Unit := do
  if line.verbose then Dialogue.perform (.note (.wireOut c))
  let written ← line.push c.wire.length 0 c.wire
  match ← Dialogue.perform .flush with
  | .error e => throw (.writeFailed line.port e)
  | .ok () => Dialogue.perform (.note (.sent written))

/-- What arrives within one read, which may be nothing. -/
def receive (line : Line) : Talk LinkError Bytes := do
  match ← Dialogue.perform (.read chunkSize) with
  | .ok chunk =>
    if line.verbose && !chunk.isEmpty then Dialogue.perform (.note (.wireIn chunk))
    pure chunk
  | .error e => if e.isReadTimeout then pure [] else throw (.readFailed line.port e)

/-- Drops what the modem sent before. -/
def discard (line : Line) : Talk LinkError Unit := do
  match ← Dialogue.perform .clear with
  | .error e => throw (.readFailed line.port e)
  | .ok () => pure ()

end Line

/-- Opens the device that the settings name. -/
def openLine (serial : Serial) (verbose : Bool) : Talk LinkError Line := do
  match ← Dialogue.perform (.attach serial) with
  | .error e => throw (.openFailed serial.port e)
  | .ok () =>
    Dialogue.perform (.note (.opened serial.port serial.baud serial.readTimeout))
    pure ⟨serial.port, verbose⟩

end ModemBench
