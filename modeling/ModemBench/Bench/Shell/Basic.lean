import ModemBench.Bench.Condition
import ModemBench.Bench.Script
/-!
A shell: a process that runs scripts, with its variables, its arguments, and what it has been told
about how to run them. Everything a shell does may end before its time.
-/

namespace ModemBench

/-- A variable may be known and yet have no value. -/
structure Variable where
  value : Option String := none
  exported : Bool := false
  fixed : Bool := false
deriving Repr, DecidableEq

/-- A process that went on by itself, and how it ended. -/
structure Child where
  id : Nat
  /-- What it is called by in the shell that started it. -/
  number : Nat
  status : ExitStatus
  /-- Whether its end has been waited for. -/
  waited : Bool := false
deriving Repr, DecidableEq

structure Shell where
  job : Job
  /-- What the shell was called by. -/
  name : String := "sh"
  arguments : List String := []
  bindings : List (String × Variable) := []
  functions : List (String × Script.Command) := []
  aliases : List (String × String) := []
  /-- Where programs were found that have been looked for. -/
  known : List (String × String) := []
  documents : List (Nat × Script.Word) := []
  announced : Nat := 0
  /-- The letters of the options that are on. -/
  options : List Char := []
  /-- How the last command came out. -/
  status : Nat := 0
  /-- How the last command in the words of a command came out. -/
  inner : Nat := 0
  /-- What to exit with in what is done about a signal, if nothing else is asked for. -/
  held : Option Nat := none
  /-- Whether something could not be printed. -/
  muted : Bool := false
  /-- The process that the script knows as its own. A part of it may run in another one. -/
  main : Nat := 1
  last : Option Nat := none
  children : List Child := []
  /-- What is done when signals arrive, or at the end. -/
  traps : List (Nat × String) := []
  line : Nat := 1
  /-- The line up to which the script has been read. -/
  reading : Nat := 1
  /-- The command that speaks. -/
  speaker : Option String := none
  /-- How many loops can be left. -/
  loops : Nat := 0
  /-- Functions keep what their own variables were before. -/
  locals : List (String × Option Variable) := []
  /-- How many functions are being run within each other. -/
  depth : Nat := 0
  /-- Where the search for options in arguments has got to: to which of them, and how far into the
  one before. -/
  optionPlace : Nat := 1
  optionWithin : Option Nat := none

/-- How a script leaves its normal course. -/
inductive Leave where
  | exit (status : Nat)
  /-- Something went wrong that a script does not go on after. -/
  | failure
  | signal (n : Nat)
  /-- Another program ran in place of the shell. -/
  | replaced (s : ExitStatus)
  /-- Out of so many loops, the last of which goes on or not. -/
  | loop (count : Nat) (again : Bool)
  | back
deriving Repr, DecidableEq

/-- What a shell does. -/
abbrev Act := ExceptT Leave (StateM Shell)

namespace Shell

def isSet (option : Char) (sh : Shell) : Bool := sh.options.contains option

def binding? (sh : Shell) (name : String) : Option Variable := sh.bindings.lookup name

def value? (sh : Shell) (name : String) : Option String := (sh.binding? name).bind (·.value)

def onJob (f : Job → Job) (sh : Shell) : Shell := { sh with job := f sh.job }

def bind (name : String) (v : Variable) (sh : Shell) : Shell :=
  { sh with bindings := (name, v) :: sh.bindings.filter (·.1 ≠ name) }

def unbind (name : String) (sh : Shell) : Shell :=
  { sh with bindings := sh.bindings.filter (·.1 ≠ name) }

/-- Puts back what a variable was. -/
def restore (name : String) (v : Option Variable) (sh : Shell) : Shell :=
  match v with
  | some v => sh.bind name v
  | none => sh.unbind name

/-- The variables that other programs get to see. -/
def environment (sh : Shell) : List (String × String) :=
  sh.bindings.filterMap fun (name, v) =>
    if v.exported then v.value.map (name, ·) else none

def separators (sh : Shell) : List Char := ((sh.value? "IFS").getD " \t\n").toList

/-- A shell in a process, with what it finds in its surroundings. -/
def begin (job : Job) (name : String) (arguments : List String) (options : List Char) : Shell :=
  let named := job.environment.filter fun (name, _) => Script.isName name.toList
  let bindings := named.map fun (name, value) => (name, ({ value, exported := true } : Variable))
  let usual := [("PS1", "# "), ("PS2", "> "), ("PS4", "+ "), ("PATH", System.path)]
  let own := [("IFS", " \t\n"), ("OPTIND", "1"), ("PPID", "1"), ("PWD", Job.path job.folder)]
  let sh : Shell := { job, name, arguments, options, bindings, main := job.id }
  let sh := usual.foldl (fun sh (name, value) =>
    if (sh.value? name).isSome then sh else sh.bind name { value }) sh
  own.foldl (fun sh (name, value) =>
    let exported := name = "PWD" ∨ (sh.binding? name).any (·.exported)
    sh.bind name { value, exported }) sh

end Shell

namespace Act

def work {α : Type} (w : Work α) : Act α := do
  let sh ← get
  let (result, job) := w.run sh.job
  set { sh with job }
  return result

def become (status : Nat) : Act Unit := modify fun sh => { sh with status }

/-- Says something, with the name of the shell, the line, and the command that speaks. -/
def complain (text : String) : Act Unit := do
  let sh ← get
  let speaker := (sh.speaker.map (· ++ ": ")).getD ""
  work (Work.complain (sh.name ++ ": " ++ toString sh.line ++ ": " ++ speaker ++ text ++ "\n"))

/-- Says what is wrong, and gives up. -/
def refuse {α : Type} (text : String) : Act α := do
  complain text
  throw .failure

/-- Prints something, and keeps in mind if that was not possible. -/
def print (text : String) : Act Unit := do
  if text.isEmpty then return
  unless ← work (Work.write 1 text) do modify fun sh => { sh with muted := true }

/-- Changes a variable, which must not be fixed. -/
def change (name : String) (f : Variable → Variable) : Act Unit := do
  let sh ← get
  let v := (sh.binding? name).getD {}
  if v.fixed then refuse (name ++ ": is read only")
  set (sh.bind name (f v))

/-- A whole number that is no less than nothing and not too great. -/
def natural (word : String) : Act Nat := do
  match Condition.number word with
  | .ok (.ofNat n) => if n ≤ 2147483647 then return n
  | .ok (.negSucc _) | .error _ => pure ()
  refuse ("Illegal number: " ++ word)

/-- Sets a variable. Programs are looked for again, and so are options among arguments, where their
variables are set. -/
def assign (name text : String) : Act Unit := do
  if name = "OPTIND" then
    let place ← natural text
    modify fun sh => { sh with optionPlace := max 1 place, optionWithin := none }
  if name = "PATH" then modify fun sh => { sh with known := [] }
  let all := (← get).isSet 'a'
  change name fun v => { v with value := some text, exported := v.exported || all }

end Act

end ModemBench
