import ModemBench.Line
/-!
Running a sequence of commands. Each is sent and its reply awaited until a terminal token or the
deadline settles it; the first that does not succeed ends the run, and nothing after it is sent.
-/

namespace ModemBench

/-- Times in whole milliseconds, as the settings give them; without a deadline a reply is awaited for
ever. -/
structure RunOptions where
  deadline : Option Nat
  delay : Nat
  onTimeout : TimeoutPolicy
deriving Repr, DecidableEq

/-- A response timeout of zero is no deadline. -/
def Pacing.options (p : Pacing) : RunOptions where
  deadline := if p.responseTimeout = 0 then none else some p.responseTimeout.toNat
  delay := p.interCommandDelay.toNat
  onTimeout := p.onTimeout

namespace Sequence

/-- Whether the time has come; without a deadline nobody looks. -/
def overdue : Option Nat → Dialogue Bool
  | none => pure false
  | some time => do return decide (time ≤ (← Dialogue.perform .clock))

/-- Gathers chunks until they hold a terminal token or the deadline is past. The token is looked
for first. `patience` bounds the reads. -/
def gather (line : Line) (deadline : Option Nat) :
    (patience : Nat) → (received : Bytes) → Talk LinkError (Ending × Bytes)
  | 0, _ => ExceptT.lift (.halted .impatience)
  | patience + 1, received => do
    let received := received ++ (← line.receive)
    match Verdict.of? received with
    | some verdict => pure (verdict.ending, received)
    | none =>
      if ← overdue deadline then pure (.timedOut, received)
      else gather line deadline patience received

/-- A time that many milliseconds from now, which the clock has to be able to tell. -/
def dueIn : Option Nat → Dialogue (Option Nat)
  | none => pure none
  | some duration => do
    let time := (← Dialogue.perform .clock) + duration * 1000
    if ← Dialogue.perform (.tellable time) then return some time
    else .halted .overflow

/-- One transmission of a command and the wait for its reply, from a deadline of its own. -/
def attempt (line : Line) (options : RunOptions) (patience : Nat) (c : Command) (number : Nat) :
    Talk LinkError (Ending × Bytes) := do
  Dialogue.perform (.note (.sending c number))
  line.send c
  Dialogue.perform (.note (.awaiting c))
  let due ← dueIn options.deadline
  gather line due patience []

/-- A command that timed out may be sent once more. What is pending is dropped before, so that a
late reply to the first transmission does not settle the second. -/
def settle (line : Line) (options : RunOptions) (patience : Nat) (c : Command) :
    Talk LinkError (Nat × Ending × Bytes) := do
  let first ← attempt line options patience c 1
  if first.1 = .timedOut ∧ options.onTimeout = .retryOnce then
    Dialogue.perform (.note (.retrying c))
    line.discard
    let second ← attempt line options patience c 2
    pure (2, second)
  else pure (1, first)

/-- Whole milliseconds between two times in microseconds. -/
def elapsed (start finish : Nat) : UInt64 :=
  .ofNat ((finish - start) / 1000)

/-- Sends one command and waits until it is settled. -/
def execute (line : Line) (options : RunOptions) (patience : Nat) (c : Command) :
    Talk LinkError Record := do
  let start ← Dialogue.perform .clock
  let (attempts, ending, response) ← settle line options patience c
  let finish ← Dialogue.perform .clock
  let record : Record := ⟨c, ending, attempts, elapsed start finish, Text.decode response⟩
  Dialogue.perform (.note (.settled record))
  pure record

/-- Runs the commands left, after those that `records` tells of. -/
def advance (line : Line) (options : RunOptions) (patience total : Nat) :
    (records : List Record) → List Command → Talk Interruption (Status × List Record)
  | records, [] => pure (.completed total, records)
  | records, c :: rest => do
    let position := records.length + 1
    let record ← (execute line options patience c).adapt fun cause =>
      ⟨position, total, records, cause⟩
    match record.ending with
    | .success =>
      if rest ≠ [] ∧ options.delay ≠ 0 then Dialogue.perform (.sleep options.delay)
      advance line options patience total (records ++ [record]) rest
    | .failure => pure (.failed position total, records ++ [record])
    | .timedOut => pure (.timedOut position total, records ++ [record])

/-- Runs every command in order. A command that is refused or not answered is a result; an error
of the link breaks the run off. -/
def run (line : Line) (options : RunOptions) (patience : Nat) (commands : List Command) :
    Talk Interruption Report := do
  let total := commands.length
  Dialogue.perform (.note (.starting total line.port))
  let (status, records) ← advance line options patience total [] commands
  let succeeded := records.countP (·.ending = .success)
  Dialogue.perform (.note (.finished succeeded total status))
  pure ⟨status, succeeded, records⟩

end Sequence

end ModemBench
