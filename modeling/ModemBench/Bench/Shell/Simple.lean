import ModemBench.Bench.Shell.Redirection
import ModemBench.Bench.Shell.Resolve
/-!
Simple commands: settings, words, and channels that lead elsewhere while the command runs.
-/

namespace ModemBench.Shell

open Script (Word Redirect)

/-- Runs a command of the shell. An error in one that is not special is only its own. -/
def runBuiltin (c : Calls) (m : Mode) (b : Builtin) (special : Bool) (words : List String) :
    Act Unit := do
  let name := words.headD ""
  let before := (← get).speaker
  modify fun sh => { sh with speaker := some name, muted := false }
  let action : Act Unit := do
    let status ← b.run c m name words.tail
    if (← get).muted then
      Act.complain (name ++ ": I/O error")
      Act.become (status ||| 1)
    else Act.become status
  try
    action
  catch e =>
    if special ∨ e ≠ .failure then throw e
    Act.become 2
  finally
    modify fun sh => { sh with speaker := before, muted := false }

/-- Puts back what variables were before, the last one first. -/
def putBack (before : List (String × Option Variable)) : Act Unit :=
  modify fun sh => before.foldl (fun sh (name, v) =>
    if name = Builtin.optionsName then
      { sh with options := ((v.bind (·.value)).getD "").toList }
    else sh.restore name v) sh

/-- How many functions may be run within each other. -/
def deepest : Nat := 1000

/-- Runs a function with arguments of its own. -/
def runFunction (c : Calls) (m : Mode) (body : Script.Command) (arguments : List String) :
    Act Unit := do
  let before ← get
  if deepest ≤ before.depth then
    Act.refuse ("Maximum function recursion depth (" ++ toString deepest ++ ") reached")
  set { before with
    arguments
    optionPlace := 1
    optionWithin := none
    loops := 0
    locals := []
    depth := before.depth + 1 }
  try
    c.run { tested := m.tested } body
  catch e =>
    if e ≠ .back then throw e
  finally
    putBack (← get).locals
    modify fun sh => { sh with
      arguments := before.arguments
      optionPlace := before.optionPlace
      optionWithin := before.optionWithin
      loops := before.loops
      locals := before.locals
      depth := before.depth }

/-- Whether anything is to be done when signals arrive, or at the end. -/
def hasTraps (sh : Shell) : Bool := sh.traps.any fun (_, action) => action ≠ ""

/-- Runs a program, in place of the shell if that has nothing left to do. -/
def runProgram (c : Calls) (m : Mode) (path? : Option String) (words : List String) :
    Act Unit := do
  let sh ← get
  let path := path?.getD sh.searchPath
  let name := words.headD ""
  match ← Builtin.discover path name with
  | .error e =>
    Act.complain (name ++ ": " ++ absence e)
    Act.become 127
  | .ok _ =>
    if m.last ∧ !sh.hasTraps then replace c path words
    else Act.become (← awaited (← apart c id (replace c path words)))

/-- Sets variables for a command. What they were before is put first in `kept` if they are for the
command alone. -/
def settings (c : Calls) (own exported : Bool) :
    List (String × Word) → Act (List String × List (String × Option Variable))
  | [] => return ([], [])
  | (name, word) :: rest => do
    let value ← expandSetting (capture c) word
    let before := (← get).binding? name
    Act.assign name value
    if own ∨ exported then Act.change name fun v => { v with exported := true }
    let (texts, kept) ← settings c own exported rest
    return ((name ++ "=" ++ value) :: texts, kept ++ if own then [(name, before)] else [])

/-- Says what is run, if that is asked for, where complaints went before. -/
def trace (before : List (Nat × Nat)) (texts : List String) : Act Unit := do
  let sh ← get
  if sh.isSet 'x' then
    let lead := (sh.value? "PS4").getD ""
    set (sh.onJob fun j => { j with channels := before })
    Act.work (Work.complain (lead ++ " ".intercalate texts ++ "\n"))
    modify (·.onJob fun j => { j with channels := sh.job.channels })

def simple (c : Calls) (m : Mode) (line : Nat) (setters : List (String × Word))
    (words : List Word) (redirects : List Redirect) : Act Unit := do
  modify fun sh => { sh with line, inner := 0 }
  let r ← resolve (capture c) words
  let before := (← get).job.channels
  let replaces := r.words.head? == some "exec" && match r.runner with
    | .builtin _ => true
    | _ => false
  if !(← redirect (capture c) redirects) then
    Act.become 2
    if r.special then throw .failure
    return
  try
    let kept ← settings c r.own (replaces && 1 < r.words.length) setters
    try
      trace before (kept.1 ++ r.all)
      match r.runner with
      | .none => modify fun sh => { sh with status := sh.inner }
      | .function body => runFunction c m body r.words.tail
      | .builtin b => runBuiltin c m b r.special r.words
      | .program path? => runProgram c m path? r.words
    finally putBack kept.2
  finally
    unless replaces do modify (·.onJob fun j => { j with channels := before })

end ModemBench.Shell
