import ModemBench.Bench.Shell.Start
import ModemBench.Bench.Utility.Edit
import ModemBench.Bench.Utility.Finding
import ModemBench.Bench.Utility.Letters
import ModemBench.Bench.Utility.Naming
import ModemBench.Bench.Utility.Passing
import ModemBench.Bench.Utility.Reckoning
import ModemBench.Bench.Utility.Running
import ModemBench.Bench.Utility.Sorting
/-!
The programs of the system by name.
-/

namespace ModemBench.Utility

/-- Programs that start no others. -/
def plain : List (String × (List String → Work Nat)) := [
  ("[", test "["), ("basename", basename), ("cat", cat), ("chmod", chmod), ("cmp", cmp), ("cp", cp),
  ("cut", cut), ("dirname", dirname), ("echo", echo), ("expr", Reckoning.expr),
  ("false", fun _ => return 1), ("grep", grep), ("head", head), ("ls", ls), ("mkdir", mkdir),
  ("mv", mv), ("printenv", printenv), ("printf", printf), ("pwd", pwd), ("readlink", readlink),
  ("realpath", realpath), ("rev", rev), ("rm", rm), ("rmdir", rmdir), ("sed", Edit.sed),
  ("seq", seq), ("sleep", sleep), ("sort", sort), ("sync", fun _ => return 0),
  ("tail", tail), ("tee", tee), ("test", test "test"), ("touch", touch), ("tr", tr),
  ("true", fun _ => return 0), ("uniq", uniq), ("wc", wc),
  ("which", which), ("whoami", fun _ => output "whoami" "root\n" 0)]

/-- Programs that start others. -/
def starters : List (String × (Shell.Calls → List String → Work ExitStatus)) := [
  ("env", env), ("nice", fun c => aside c "nice" "n" 0), ("nohup", fun c => aside c "nohup" "" 0),
  ("timeout", fun c => aside c "timeout" "ks" 1), ("xargs", xargs)]

/-- Runs a program of the system with the words that it is called by. -/
def run (c : Shell.Calls) (name : String) (words : List String) : Work ExitStatus := do
  match plain.lookup name, starters.lookup name with
  | some program, _ => return .code (← program words.tail)
  | none, some program => program c words.tail
  | none, none => Shell.start c (words.headD name) words.tail

end ModemBench.Utility
