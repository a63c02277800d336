import ModemBench.Bench.Format
import ModemBench.Bench.Shell.Builtin.Basic
/-!
Commands that print words, or say whether something holds.
-/

namespace ModemBench.Shell.Builtin

def printf (words : List String) : Act Nat := do
  let (_, words) ← options "" "" words
  match words with
  | [] => Act.refuse "usage: printf format [arg ...]"
  | format :: words =>
    let printed := Format.print format words
    printed.complaints.forM Act.complain
    match printed.flaw with
    | some flaw =>
      Act.complain flaw
      Act.print (String.ofList printed.text)
      return 2
    | none =>
      Act.print (String.ofList printed.text)
      return if printed.complaints.isEmpty then 0 else 1

/-- Says whether what words say holds. Words in brackets are ended by one. -/
def test (name : String) (words : List String) : Act Nat := do
  let words ← match if name = "[" then Condition.bracketed words else .ok words with
    | .ok words => pure words
    | .error e => Act.refuse e
  match Condition.holds (← get).job (words.length + 2) words with
  | .ok true => return 0
  | .ok false => return 1
  | .error e => Act.refuse e

/-- Commands that print, and conditions. -/
def ofOutput : List (String × Builtin) := [
  ("echo", {
    run := fun _ _ _ words => do
      Act.print (Format.echo words)
      return 0 }),
  ("printf", { run := fun _ _ _ words => printf words }),
  ("test", { run := fun _ _ name words => test name words }),
  ("[", { run := fun _ _ name words => test name words })]

end ModemBench.Shell.Builtin
