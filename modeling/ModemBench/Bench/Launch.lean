import ModemBench.Bench.Shell.Start
import ModemBench.Bench.Utility
/-!
What is started: programs of the system, and files that name the program which runs them.
-/

namespace ModemBench

namespace Launch

open Shell (Calls)

/-- The bytes of one word that are too many to start a program with. -/
def tooLong : Nat := 131072

def isBlank (c : Char) : Bool := c == ' ' || c == '\t'

/-- The program that runs a file, and a word for it, as the first line of the file has them behind
a mark. -/
def interpreter? (bytes : Bytes) : Option (String × Option String) :=
  match Text.Raw.ofBytes (bytes.take 256) with
  | '#' :: '!' :: rest =>
    let line := (rest.takeWhile (· != '\n')).dropWhile isBlank
    let line := (line.reverse.dropWhile isBlank).reverse
    let name := line.takeWhile (!isBlank ·)
    let word := (line.drop name.length).dropWhile isBlank
    if name.isEmpty then none
    else some (String.ofList name, if word.isEmpty then none else some (String.ofList word))
  | _ => none

/-- Starts what is at a path in place of a process. -/
def launch (c : Calls) (path : String) (words : List String) :
    Work (Except SystemError ExitStatus) := do
  if words.any fun word => tooLong ≤ word.length then return .error .tooManyArguments
  match (← get).find path with
  | .error e => return .error e
  | .ok (_, .program name) => return .ok (← Utility.run c name words)
  | .ok (_, .file bytes mode) =>
    if !(Stored.file bytes mode).runs then return .error .denied
    match interpreter? bytes with
    | some (program, word) => c.launch program (program :: word.toList ++ path :: words.tail)
    | none => return .error .badFormat
  | .ok _ => return .error .denied

end Launch

namespace Shell

/-- Ties the parts of a shell together, so many levels deep. -/
@[noinline] def Calls.tied (below : Unit → Calls) : Calls where
  run m command := Shell.run (below ()) m command
  script tested text := runScript (below ()) tested (text.length + 2) 0 { ahead := text }
  launch path words := Launch.launch (below ()) path words

/-- What runs commands, texts and programs. What is nested too deeply ends as it does where there
is no room left for it. -/
def calls : (depth : Nat) → Calls
  | 0 => {
    run := fun _ _ => throw (.signal 11)
    script := fun _ _ => throw (.signal 11)
    launch := fun _ _ => return .ok (.signal 11) }
  | depth + 1 => .tied fun _ => calls depth

/-- How deeply anything may be nested. -/
def deepestCalls : Nat := 40000

end Shell

end ModemBench
