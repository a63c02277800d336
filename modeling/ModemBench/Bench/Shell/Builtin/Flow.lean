import ModemBench.Bench.Shell.Builtin.Basic
import ModemBench.Bench.Shell.Lookup
/-!
Commands that change the course of a script: they end it or a part of it, run texts, files and
other programs, or come out one way or the other.
-/

namespace ModemBench.Shell.Builtin

def exit (words : List String) : Act Nat := do
  let sh ← get
  match words with
  | [] => throw (.exit (sh.held.getD sh.status))
  | word :: _ => throw (.exit (← Act.natural word))

/-- Goes back from a function or a file. -/
def back (words : List String) : Act Nat := do
  match words with
  | [] => pure ()
  | word :: _ => Act.become (← Act.natural word)
  throw .back

/-- Leaves loops, the last of which may go on. No more can be left than there are. -/
def leave (again : Bool) (words : List String) : Act Nat := do
  let count ← match words with
    | [] => pure 1
    | word :: _ =>
      let n ← Act.natural word
      if n = 0 then Act.refuse ("Illegal number: " ++ word)
      pure n
  let count := min count (← get).loops
  if count = 0 then return 0
  Act.become 0
  throw (.loop count again)

def shift (words : List String) : Act Nat := do
  let count ← match words with
    | [] => pure 1
    | word :: _ => Act.natural word
  let sh ← get
  if sh.arguments.length < count then Act.refuse "can't shift that many"
  set { sh with arguments := sh.arguments.drop count, optionPlace := 1, optionWithin := none }
  return 0

/-- Runs a text that is put together from words. -/
def eval (c : Calls) (m : Mode) (words : List String) : Act Nat := do
  c.script m.tested (" ".intercalate words).toList

/-- Where a file of commands is. One without a slash is looked for like a program. -/
def sourcePath (sh : Shell) (name : String) : Option String :=
  if name.contains '/' then some name
  else (candidates sh.searchPath name).find? fun path =>
    match sh.job.find path with
    | .ok (_, .file _ _) | .ok (_, .program _) => true
    | _ => false

/-- Runs the commands in a file, which may be gone back from. -/
def source (c : Calls) (words : List String) : Act Nat := do
  let (_, words) ← options "" "" words
  match words with
  | [] => return 0
  | name :: _ =>
    let sh ← get
    match sourcePath sh name with
    | none => Act.refuse (name ++ ": not found")
    | some path =>
      match sh.job.find path with
      | .error e =>
        let text := if absence e = "not found" then "No such file" else e.text
        Act.refuse ("cannot open " ++ path ++ ": " ++ text)
      | .ok (place, _) =>
        modify fun sh => { sh with speaker := some path }
        let text := Text.Raw.ofBytes (sh.job.machine.content (.file place))
        try c.script false text
        catch e =>
          if e = .back then return (← get).status
          throw e

def exec (c : Calls) (words : List String) : Act Nat := do
  match words with
  | [] => return 0
  | _ =>
    replace c (← get).searchPath words
    return 0

/-- Commands that end a script or a part of it, run others, or do nothing. -/
def ofCourse : List (String × Builtin) := [
  (":", { special := true, run := fun _ _ _ _ => return 0 }),
  ("true", { run := fun _ _ _ _ => return 0 }),
  ("false", { run := fun _ _ _ _ => return 1 }),
  ("exit", { special := true, run := fun _ _ _ words => exit words }),
  ("return", { special := true, run := fun _ _ _ words => back words }),
  ("break", { special := true, run := fun _ _ _ words => leave false words }),
  ("continue", { special := true, run := fun _ _ _ words => leave true words }),
  ("shift", { special := true, run := fun _ _ _ words => shift words }),
  ("eval", { special := true, run := fun c m _ words => eval c m words }),
  (".", { special := true, run := fun c _ _ words => source c words }),
  ("exec", { special := true, run := fun c _ _ words => exec c words })]

end ModemBench.Shell.Builtin
