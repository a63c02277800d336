import ModemBench.Bench.Shell.Builtin.Basic
/-!
Commands on signals and on processes.
-/

namespace ModemBench.Shell.Builtin

/-- The signal that a word names; the end of a script only where that can be meant. -/
def signal? (ends : Bool) (word : String) : Option Nat :=
  match Signal.number? word with
  | some 0 => if ends ∨ word.toList.all Char.isDigit then some 0 else none
  | other => other

/-- Says what is done when signals arrive, or changes that. -/
def trap (words : List String) : Act Nat := do
  let (_, words) ← options "" "" words
  match words with
  | [] =>
    let traps := (← get).traps.mergeSort fun a b => a.1 ≤ b.1
    Act.print (String.join (traps.map fun (n, action) =>
      "trap -- " ++ quoted action ++ " " ++ Signal.name n ++ "\n"))
    return 0
  | first :: rest =>
    let bare := rest.isEmpty || (first.toList.all Char.isDigit && (Signal.number? first).isSome)
    let resets := bare || first = "-"
    for word in if bare then words else rest do
      match signal? true word with
      | none =>
        Act.work (Work.complain ("trap: " ++ word ++ ": bad trap\n"))
        return 1
      | some n =>
        modify fun sh =>
          let others := sh.traps.filter (·.1 ≠ n)
          let ignored := sh.job.ignored.filter (· ≠ n)
          { sh with
            traps := if resets then others else (n, first) :: others
            job.ignored := if !resets ∧ first = "" ∧ n ≠ 0 then n :: ignored else ignored }
    return 0

def usage : String :=
  "Usage: kill [-s sigspec | -signum | -sigspec] [pid | job]... or\nkill -l [exitstatus]"

/-- The number of a process, which may be given as that of a child behind a percent sign. -/
def process (word : String) : Act Nat := do
  match word.toList with
  | '%' :: name =>
    let children := (← get).children
    let found := match name with
      | [] | ['%'] | ['+'] => children.head?
      | _ => children.find? fun child => toString child.number = String.ofList name
    match found with
    | some child => return child.id
    | none => Act.refuse ("No such job: " ++ word)
  | _ => Act.natural word

/-- Sends a signal to a process, which does not arrive if there is no such process. -/
def send (n : Nat) (word : String) : Act Nat := do
  let (isGroup, id) ← match word.toList with
    | '-' :: rest => pure (true, ← Act.natural (String.ofList rest))
    | _ => pure (false, ← process word)
  let sh ← get
  let gone := isGroup || sh.children.any fun child => child.id == id && child.waited
  if gone ∨ id = 0 ∨ sh.job.machine.processes < id then
    Act.complain "No such process\n"
    return 1
  unless n = 0 do
    set { sh with job.machine.signals := sh.job.machine.signals ++ [(id, n)] }
  return 0

/-- Names signals. -/
def nameSignals (words : List String) : Act Nat := do
  match words with
  | [] =>
    let names := (List.range (Signal.last + 1)).map fun n => if n = 0 then "0" else Signal.name n
    Act.print (String.join (names.map (· ++ "\n")))
  | word :: _ =>
    let n ← Act.natural word
    let n := if 128 < n then n - 128 else n
    if n = 0 ∨ Signal.last < n then
      Act.refuse ("invalid signal number or exit status: " ++ word)
    Act.print (Signal.name n ++ "\n")
  return 0

def kill (words : List String) : Act Nat := do
  match words with
  | [] => Act.refuse usage
  | first :: rest =>
    let direct := match first.toList with
      | '-' :: name => signal? false (String.ofList name)
      | _ => none
    match direct with
    | some n => if rest.isEmpty then Act.refuse usage else worst rest (send n)
    | none =>
      let (options, rest) ← options "l" "s" words
      let named ← match (options.filter (·.1 == 's')).getLast? with
        | none => pure none
        | some (_, name) =>
          match signal? false name with
          | some n => pure (some n)
          | none => Act.refuse ("invalid signal number or name: " ++ name)
      if options.any (·.1 == 'l') then
        if named.isSome then Act.refuse usage
        nameSignals rest
      else if rest.isEmpty then Act.refuse usage
      else worst rest (send (named.getD 15))

/-- The status of a process that went on by itself. -/
def wait (words : List String) : Act Nat := do
  let (_, words) ← options "" "" words
  if words.isEmpty then
    modify fun sh => { sh with
      children := sh.children.map fun child => { child with waited := true } }
  let mut status := 0
  for word in words do
    let id ← process word
    let sh ← get
    match sh.children.find? (·.id == id) with
    | none => status := 127
    | some child =>
      let others := sh.children.filter (·.id != id)
      set { sh with children := { child with waited := true } :: others }
      if child.waited then status := left child.status
      else status := ← awaited child.status
  return status

/-- Commands on signals and processes. -/
def ofSignals : List (String × Builtin) := [
  ("trap", { special := true, run := fun _ _ _ words => trap words }),
  ("times", {
    special := true
    run := fun _ _ _ _ => do
      Act.print "0m0.000000s 0m0.000000s\n0m0.000000s 0m0.000000s\n"
      return 0 }),
  ("kill", { run := fun _ _ _ words => kill words }),
  ("wait", { run := fun _ _ _ words => wait words }),
  ("jobs", { run := fun _ _ _ _ => return 0 }),
  ("fg", { run := fun _ _ _ _ => Act.refuse "No current job" }),
  ("bg", { run := fun _ _ _ _ => Act.refuse "No current job" })]

end ModemBench.Shell.Builtin
