import ModemBench.Bench.Shell.Run
/-!
A shell as a program: it runs a text among its arguments, a file, or what it reads.
-/

namespace ModemBench.Shell

/-- Runs the commands in a file, which says how the shell is called from there on. -/
def runFile (c : Calls) (path : String) : Act Unit := do
  let sh ← get
  match sh.job.find path with
  | .error e => Act.refuse ("cannot open " ++ path ++ ": " ++ reason e false)
  | .ok (place, _) =>
    set { sh with name := path }
    let _ ← c.script false (Text.Raw.ofBytes (sh.job.machine.content (.file place)))

/-- Reads what is asked for, and does it. -/
def carryOut (c : Calls) (words : List String) : Act Unit := do
  let (isText, arguments) ← Builtin.turnOptions true (words.length + 1) words
  match arguments.getD [] with
  | [] =>
    if isText then Act.refuse "-c requires an argument"
    Builtin.turn true 's'
    let text ← Act.work (Work.readAll 0)
    let _ ← c.script false (text.getD "").toList
  | text :: rest =>
    if isText then
      match rest with
      | [] => pure ()
      | name :: arguments => modify fun sh => { sh with name, arguments }
      let _ ← c.script false text.toList
    else if (← get).isSet 's' then
      Builtin.setArguments (text :: rest)
      let read ← Act.work (Work.readAll 0)
      let _ ← c.script false (read.getD "").toList
    else
      Builtin.setArguments rest
      runFile c text

/-- Runs a shell to its end. -/
def start (c : Calls) (name : String) (words : List String) : Work ExitStatus := do
  let sh := { Shell.begin (← get) name [] [] with line := 0 }
  let (status, sh) := (conclude c (carryOut c words)).run sh
  set sh.job
  return status

end ModemBench.Shell
