import ModemBench.Bench.Shell.Calls
/-!
Programs that a shell starts: a name with a slash is a path, others are looked for in a row of
folders.
-/

namespace ModemBench.Shell

/-- Where programs are looked for. -/
def searchPath (sh : Shell) : String := (sh.value? "PATH").getD ""

/-- Why there is no such program. -/
def absence (e : SystemError) : String :=
  match e with
  | .missing | .throughFile => "not found"
  | _ => e.text

/-- What a command that cannot be started comes out as. -/
def absenceStatus (e : SystemError) : Nat :=
  match e with
  | .missing | .throughFile | .nameTooLong => 127
  | _ => 126

/-- The paths that a name may stand for. -/
def candidates (path name : String) : List String :=
  if name.contains '/' then [name]
  else (path.splitOn ":").map fun folder =>
    if folder = "" then name else folder ++ "/" ++ name

/-- The first path at which there is a program. Where there is none, what is wrong is what was
wrong with the last path at which there was anything. -/
def locate (j : Job) (path name : String) : Except SystemError String :=
  if name.contains '/' then .ok name else go .missing (candidates path name)
where
  go (e : SystemError) : List String → Except SystemError String
    | [] => .error e
    | candidate :: rest =>
      match j.find candidate with
      | .ok (_, stored) => if stored.runs then .ok candidate else go .denied rest
      | .error .missing | .error .throughFile => go e rest
      | .error e => go e rest

/-- The shell that runs files of commands that do not say what runs them. -/
def usual : String := "/bin/sh"

/-- Starts the first of several paths that can be started. -/
def launchFirst (c : Calls) (words : List String) (e : SystemError) :
    List String → Work (Except SystemError ExitStatus)
  | [] => return .error e
  | path :: rest => do
    let result ← match ← c.launch path words with
      | .error .badFormat => c.launch usual (usual :: path :: words.tail)
      | result => pure result
    match result with
    | .ok status => return .ok status
    | .error .missing | .error .throughFile => launchFirst c words e rest
    | .error e => launchFirst c words e rest

/-- Has another program run in place of the shell. -/
def replace (c : Calls) (path : String) (words : List String) : Act Unit := do
  let name := words.headD ""
  let sh ← get
  let ignored := (sh.traps.filter fun (n, action) => n ≠ 0 && action = "").map (·.1)
  let job := { sh.job with environment := sh.environment, ignored := ignored ++ sh.job.ignored }
  let (result, after) := (launchFirst c words .missing (candidates path name)).run job
  set { sh with job.machine := after.machine }
  match result with
  | .ok status => throw (.replaced status)
  | .error e =>
    Act.complain (name ++ ": " ++ absence e)
    throw (.exit (absenceStatus e))

end ModemBench.Shell
