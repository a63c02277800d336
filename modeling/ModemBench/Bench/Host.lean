import ModemBench.Bench.Launch
import ModemBench.Surroundings
/-!
A small host: a file tree, an environment, what was printed, and programs that can be started.
-/

namespace ModemBench

structure Host where
  disk : Disk := {}
  env : List (String × String) := []
  stdout : Bytes := []
  stderr : Bytes := []
deriving Repr, Inhabited

namespace Host

def valueOf? (h : Host) (name : String) : Option String := h.env.lookup name

def surroundings (h : Host) : Surroundings := .ofTexts h.valueOf? h.disk.look

def print (text : String) (h : Host) : Host := { h with stdout := h.stdout ++ Text.encode text }

def complain (text : String) (h : Host) : Host := { h with stderr := h.stderr ++ Text.encode text }

/-- Where programs are looked for. -/
def searchPath (h : Host) : String := (h.valueOf? "PATH").getD System.path

/-- What programs find in their surroundings. -/
def environment (h : Host) : List (String × String) :=
  ("PATH", h.searchPath) :: h.env.filter (·.1 ≠ "PATH")

/-- Runs a program that was found, with all that it may change. -/
def run (path : String) (words : List String) (h : Host) : Except SystemError ExitStatus × Host :=
  let raw := fun (name, value) => (Text.Raw.ofText name, Text.Raw.ofText value)
  let job := Job.begin { disk := h.disk } (h.environment.map raw)
  let program := Shell.Calls.launch (Shell.calls Shell.deepestCalls) (Text.Raw.ofText path)
    (words.map Text.Raw.ofText)
  let (result, job) := program.run job
  (result, { h with
    disk := job.disk
    stdout := h.stdout ++ job.machine.output
    stderr := h.stderr ++ job.machine.errors })

/-- Starts a program and waits for its end; or says why it cannot be started. -/
def start (program : String) (arguments : List String) (h : Host) :
    Except String ExitStatus × Host :=
  let words := program :: arguments
  if words.any (·.contains '\x00') then (.error "nul byte found in provided data", h)
  else
    match h.disk.program System.work h.searchPath program with
    | .error e => (.error e.message, h)
    | .ok path =>
      let (result, h) := h.run path words
      (result.mapError SystemError.message, h)

end Host

end ModemBench
