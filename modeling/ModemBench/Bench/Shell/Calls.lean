import ModemBench.Bench.Shell.Expansion
import ModemBench.Bench.Signal
/-!
What the parts of a shell need of each other: to run commands, texts and programs. Processes of
their own are copies that leave nothing behind but what they have done to the machine.
-/

namespace ModemBench.Shell

/-- How a command is run: whether something depends on how it comes out, and whether it is the
last that the process does. -/
structure Mode where
  tested : Bool := false
  last : Bool := false

structure Calls where
  run : Mode → Script.Command → Act Unit
  /-- Runs a text, and gives how it came out, on which something may depend. -/
  script : (tested : Bool) → List Char → Act Nat
  /-- Starts what is at a path, with the words that it is called by, in place of a process. -/
  launch : (path : String) → (words : List String) → Work (Except SystemError ExitStatus)

/-- What status a script has when it has been left. -/
def statusOf (sh : Shell) : Except Leave Unit → ExitStatus
  | .ok () | .error .back | .error (.loop _ _) => .code sh.status
  | .error (.exit n) => .code (n % 256)
  | .error .failure => .code 2
  | .error (.signal n) => .signal n
  | .error (.replaced s) => s

/-- Ends a process: what it has to do at its end is done then, unless it was ended from outside. -/
def conclude (c : Calls) (action : Act Unit) : StateM Shell ExitStatus := do
  let result ← action.run
  let status := statusOf (← get) result
  match result, (← get).traps.lookup 0, status with
  | .error (.replaced _), _, _ | _, _, .signal _ _ | _, none, _ => return status
  | _, some last, .code n =>
    modify fun sh => { sh with
      traps := sh.traps.filter (·.1 ≠ 0), status := n, held := some n, loops := 0, speaker := none }
    match ← (c.script false last.toList).run with
    | .ok _ | .error .back | .error (.loop _ _) => return .code n
    | .error left => return statusOf (← get) (.error left)

/-- A copy of a shell in a process of its own. What was to be done when signals arrive is not done
there. -/
def child (sh : Shell) : Shell :=
  let (id, machine) := sh.job.machine.addProcess
  { sh with
    job := { sh.job with machine, id }
    traps := sh.traps.filter fun (n, action) => n ≠ 0 && action = ""
    children := []
    reading := 1 }

/-- Ends a process to which a signal was sent that nothing is to be done about. -/
def strike : Act Unit := do
  let sh ← get
  let fatal := sh.job.machine.signals.find? fun (id, n) =>
    id == sh.job.id && (n == Signal.kill || (!Signal.isHarmless n && !sh.job.ignored.contains n &&
      (sh.traps.lookup n).isNone))
  match fatal with
  | some (_, n) => throw (.signal n)
  | none => return

/-- Does something in a process of its own that has some channels elsewhere. -/
def apart (c : Calls) (connect : Job → Job) (action : Act Unit) : Act ExitStatus := do
  let sh ← get
  let inside := child sh
  let (status, done) := (conclude c action).run (inside.onJob connect)
  set { sh with job.machine := done.job.machine }
  strike
  return status

/-- The status that a process leaves to the shell that started it. -/
def left (s : ExitStatus) : Nat :=
  match s with
  | .code n => n
  | .signal n _ => 128 + n

/-- Waits for a process, and tells of a signal that has ended it. -/
def awaited (s : ExitStatus) : Act Nat := do
  match s with
  | .code _ => pure ()
  | .signal n _ =>
    match Signal.obituary? n with
    | some text => Act.work (Work.complain (text ++ "\n"))
    | none => pure ()
  return left s

/-- Runs a command in a process of its own, and gives what it printed. -/
def capture (c : Calls) : Capture := fun command => do
  match command with
  | .nothing => return ""
  | _ =>
    let sh ← get
    let (buffer, machine) := sh.job.machine.addBuffer []
    set { sh with job.machine := machine }
    let connect := Job.openOn 1 { stream := .buffer buffer, writes := true }
    let n ← awaited (← apart c connect (c.run { last := true } command))
    modify fun sh => { sh with inner := n }
    return String.ofList (Text.Raw.ofBytes ((← get).job.machine.content (.buffer buffer)))

/-- Does what is to be done about the signals that have arrived. -/
def settle (c : Calls) : (fuel : Nat) → Act Unit
  | 0 => return
  | fuel + 1 => do
    strike
    let sh ← get
    match sh.job.machine.signals.find? (·.1 == sh.job.id) with
    | none => return
    | some (id, n) =>
      set { sh with
        job.machine.signals := sh.job.machine.signals.erase (id, n)
        held := some (sh.held.getD sh.status) }
      match sh.traps.lookup n with
      | some action =>
        let _ ← c.script false action.toList
        modify fun after => { after with status := sh.status, held := sh.held }
      | none => modify fun after => { after with held := sh.held }
      settle c fuel

end ModemBench.Shell
