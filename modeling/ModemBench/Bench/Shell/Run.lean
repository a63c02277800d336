import ModemBench.Bench.Shell.Simple
/-!
How commands run that are made of other commands, and texts of commands.
-/

namespace ModemBench.Shell

open Script (Word)

/-- How one round of a loop ends. -/
inductive Round where
  | whole
  /-- The loop goes on with the next round at once. -/
  | again
  | left
deriving DecidableEq

/-- Does a part of a round, in which loops can be left. -/
def round (action : Act Unit) : Act Round := do
  modify fun sh => { sh with loops := sh.loops + 1 }
  try
    action
    return .whole
  catch e =>
    match e with
    | .loop 1 again => return if again then .again else .left
    | .loop count again => throw (.loop (count - 1) again)
    | other => throw other
  finally
    modify fun sh => { sh with loops := sh.loops - 1 }

/-- Goes on while a condition comes out as it should. What is left is the status of the last round,
or nothing wrong if there was none. -/
def repeated (c : Calls) (m : Mode) (well : Bool) (condition body : Script.Command) :
    (fuel : Nat) → (status : Nat) → Act Unit
  | 0, _ => throw .failure
  | fuel + 1, status => do
    let asked ← round (c.run { tested := true } condition)
    if asked = .again then repeated c m well condition body fuel status
    else if asked = .left ∨ ((← get).status == 0) ≠ well then Act.become status
    else
      let done ← round (c.run { tested := m.tested } body)
      unless done = .left do repeated c m well condition body fuel (← get).status

def each (c : Calls) (m : Mode) (name : String) (body : Script.Command) : List String → Act Unit
  | [] => return
  | value :: rest => do
    Act.assign name value
    let done ← round (c.run { tested := m.tested } body)
    unless done = .left do each c m name body rest

/-- The first command one of whose patterns fits. -/
def chosen (c : Calls) (text : String) :
    List (List Word × Script.Command) → Act (Option Script.Command)
  | [] => return none
  | (patterns, body) :: rest => do
    if ← patterns.anyM fun p => return Glob.fits (← expandPattern (capture c) p) text.toList then
      return some body
    chosen c text rest

/-- Runs commands beside each other, each of which reads what the one before has printed. Gives how
the last one came out. -/
def pipeline (c : Calls) (m : Mode) (input : Option Nat) (status : Nat) :
    List Script.Command → Act Nat
  | [] => return status
  | command :: rest => do
    let sh ← get
    let (buffer, machine) := sh.job.machine.addBuffer []
    set { sh with job.machine := machine }
    let connect (j : Job) : Job :=
      let j := match input with
        | none => j
        | some n => j.openOn 0 { stream := .buffer n, reads := true }
      if rest.isEmpty then j else j.openOn 1 { stream := .buffer buffer, writes := true }
    let status ← awaited (← apart c connect (c.run { m with last := true } command))
    pipeline c m (some buffer) status rest

/-- Runs a command that is not waited for. It reads nothing. -/
def background (c : Calls) (command : Script.Command) : Act Unit := do
  let connect := Job.openOn 0 { stream := .nowhere, reads := true }
  let id := (child (← get)).job.id
  let status ← apart c connect (c.run { last := true } command)
  modify fun sh =>
    let taken := (sh.children.filter (!·.waited)).map (·.number)
    let free := (List.range (taken.length + 1)).find? fun n => !taken.contains (n + 1)
    let child : Child := { id, number := free.getD 0 + 1, status }
    let others := sh.children.filter (·.number ≠ child.number)
    { sh with last := some id, children := child :: others, status := 0 }

/-- Runs a command in a process of its own, which is this one if it has nothing left to do. -/
def within (c : Calls) (m : Mode) (command : Script.Command) (redirects : List Script.Redirect) :
    Act Unit := do
  let action : Act Unit := do
    if ← redirect (capture c) redirects then c.run { m with last := true } command
    else throw .failure
  let sh ← get
  if m.last ∧ !sh.hasTraps then action
  else Act.become (← awaited (← apart c id action))

/-- No script has as many rounds in a loop, or signals at once. -/
def rounds : Nat := 1000000

/-- Runs one command. -/
def runParts (c : Calls) (m : Mode) : Script.Command → Act Unit
  | .nothing => return
  | .simple line settings words redirects => simple c m line settings words redirects
  | .pipeline parts => do Act.become (← pipeline c m none 0 parts)
  | .opposite command => do
    c.run { tested := true } command
    Act.become (if (← get).status = 0 then 1 else 0)
  | .linked well first second => do
    c.run { tested := true } first
    if ((← get).status = 0) = well then c.run m second
  | .sequence first second => do
    c.run { tested := m.tested } first
    c.run m second
  | .background command => background c command
  | .apart line command redirects => do
    modify fun sh => { sh with line }
    within c m command redirects
  | .redirected line command redirects => do
    modify fun sh => { sh with line }
    redirected (capture c) redirects (c.run { tested := m.tested } command)
  | .branch condition body otherwise => do
    c.run { tested := true } condition
    match (← get).status, otherwise with
    | 0, _ => c.run m body
    | _ + 1, .nothing => Act.become 0
    | _ + 1, command => c.run m command
  | .loop well condition body => repeated c m well condition body rounds 0
  | .each line name words body => do
    modify fun sh => { sh with line }
    let values ← expandAll (capture c) words
    if values.isEmpty then Act.become 0
    each c m name body values
  | .choice line word cases => do
    modify fun sh => { sh with line }
    let text ← expandText (capture c) word
    match ← chosen c text cases with
    | none | some .nothing => Act.become 0
    | some command => c.run m command
  | .define name body => do
    modify fun sh => { sh with functions := (name, body) :: sh.functions.filter (·.1 ≠ name) }
    Act.become 0

/-- Whether the end of a command that came out badly may end the script. -/
def counts : Script.Command → Bool
  | .simple .. | .apart .. | .background _ | .pipeline _ => true
  | _ => false

/-- Runs a command, unless commands are only read. -/
def run (c : Calls) (m : Mode) (command : Script.Command) : Act Unit := do
  if (← get).isSet 'n' then return
  settle c rounds
  runParts c m command
  settle c rounds
  let sh ← get
  if sh.isSet 'e' ∧ counts command ∧ !m.tested ∧ sh.status ≠ 0 then throw (.exit sh.status)

/-- Runs the commands in a text, one after another, each of which may change how the next is
read. Gives the status of the last one. -/
def runScript (c : Calls) (tested : Bool) : (fuel : Nat) → (status : Nat) → Script.Source → Act Nat
  | 0, _, _ => throw .failure
  | fuel + 1, status, source => do
    let sh ← get
    let source := { source with aliases := sh.aliases, announced := sh.announced, documents := [] }
    match Script.read source with
    | .error flaw =>
      modify fun sh => { sh with line := flaw.line }
      Act.refuse ("Syntax error: " ++ flaw.cause.message)
    | .ok (none, _) => return status
    | .ok (some command, source) =>
      set { sh with
        announced := source.announced
        documents := source.documents ++ sh.documents
        reading := source.line }
      c.run { tested } command
      let after := (← get).status
      modify fun after => { after with reading := sh.reading }
      let status := match command with
        | .nothing => status
        | _ => after
      runScript c tested fuel status source

end ModemBench.Shell
