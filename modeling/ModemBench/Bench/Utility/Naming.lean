import ModemBench.Bench.Condition
import ModemBench.Bench.Format
import ModemBench.Bench.Shell.Lookup
import ModemBench.Bench.Utility.Files
import ModemBench.Bench.Utility.Input
/-!
Programs that print words, names, and what a process knows; and conditions as a program.
-/

namespace ModemBench.Utility

def basename (words : List String) : Work Nat :=
  withArguments "basename" { plain := "az", valued := "s", first := true } 1 words fun a => do
    let several := a.has 'a' || a.has 's'
    let strip (suffix name : String) : String :=
      if name ≠ suffix ∧ name.endsWith suffix then
        String.ofList (name.toList.take (name.length - suffix.length))
      else name
    let named (path suffix : String) : String :=
      if bare path = "/" then "/\n" else strip suffix (lastName path) ++ "\n"
    match a.operands with
    | [] => missingOperand "basename" 1
    | path :: rest =>
      if several then
        let suffix := (a.value? 's').getD ""
        output "basename" (String.join (a.operands.map (named · suffix))) 0
      else match rest with
        | [] => output "basename" (named path "") 0
        | [suffix] => output "basename" (named path suffix) 0
        | _ :: extra :: _ => misuse "basename" ("extra operand " ++ quoted extra) 1

/-- What is before the last slash of a path. -/
def folderName (path : String) : String :=
  let cs := (bare path).toList
  if !cs.contains '/' then "."
  else if bare path = "/" then "/"
  else bare (String.ofList (cs.reverse.dropWhile (· != '/')).reverse)

def dirname (words : List String) : Work Nat :=
  withArguments "dirname" { plain := "z" } 1 words fun a => do
    if a.operands.isEmpty then return ← missingOperand "dirname" 1
    output "dirname" (unlines (a.operands.map folderName)) 0

def pwd (_ : List String) : Work Nat := do
  output "pwd" (Job.path (← get).folder ++ "\n") 0

/-- Paths from the root on. Only the last part may be missing. -/
def realpath (words : List String) : Work Nat :=
  withArguments "realpath" { plain := "emsqLPz" } 1 words fun a => do
    if a.operands.isEmpty then return ← missingOperand "realpath" 1
    forAll a.operands fun path => do
      match (← get).resolve (bare path) with
      | .ok place =>
        if a.has 'e' ∧ ((← get).disk.at? place).isNone then report "realpath" (shown path) .missing
        else output "realpath" (Job.path place ++ "\n") 0
      | .error e => if a.has 'q' then return 1 else report "realpath" (shown path) e

/-- No path is another name for one, so there is only something to tell where a path itself is
asked for. -/
def readlink (words : List String) : Work Nat :=
  withArguments "readlink" { plain := "femnqsvz" } 1 words fun a => do
    if a.operands.isEmpty then return ← missingOperand "readlink" 1
    forAll a.operands fun path => do
      if !(a.has 'f' ∨ a.has 'e' ∨ a.has 'm') then return 1
      match (← get).resolve (bare path) with
      | .ok place => output "readlink" (Job.path place ++ "\n") 0
      | .error _ => return 1

/-- The values of variables that are there, or all settings. -/
def printenv (words : List String) : Work Nat := do
  let j ← get
  let found := if words.isEmpty then j.environment.map fun (name, value) => name ++ "=" ++ value
    else words.filterMap j.value?
  output "printenv" (unlines found) (if !words.isEmpty ∧ found.length < words.length then 1 else 0)

/-- Words with blanks between them. Only with an option do backslashes mean something. -/
def echo (words : List String) : Work Nat := do
  let isOption (word : String) : Bool :=
    match word.toList with
    | '-' :: c :: cs => (c :: cs).all "neE".toList.contains
    | _ => false
  let options := (words.takeWhile isOption).flatMap (·.toList)
  let text := " ".intercalate (words.dropWhile isOption)
  let escapes := ((options.filter fun c => c == 'e' || c == 'E').getLast?) = some 'e'
  let (cs, ended) := if escapes then Format.unescape (text.length + 1) text.toList
    else (text.toList, false)
  let last := if ended ∨ options.contains 'n' then [] else ['\n']
  output "echo" (String.ofList (cs ++ last)) 0

def printf (words : List String) : Work Nat := do
  let words := if words.head? = some "--" then words.tail else words
  match words with
  | [] => missingOperand "printf" 1
  | format :: words =>
    let printed := Format.print format words
    let blame (text : String) : Work Unit := Work.complain ("printf: " ++ text ++ "\n")
    printed.complaints.forM fun text => blame text
    match printed.flaw with
    | some flaw => blame flaw
    | none => pure ()
    let failed := printed.flaw.isSome || !printed.complaints.isEmpty
    output "printf" (String.ofList printed.text) (if failed then 1 else 0)

/-- Says whether what words say holds. Words in brackets are ended by one. -/
def test (name : String) (words : List String) : Work Nat := do
  let blame (text : String) : Work Nat := do
    Work.complain (name ++ ": " ++ text ++ "\n")
    return 2
  match if name = "[" then Condition.bracketed words else .ok words with
  | .error e => blame e
  | .ok words =>
    match Condition.holds (← get) (words.length + 2) words with
    | .ok true => return 0
    | .ok false => return 1
    | .error e => blame e

/-- Whether a word gives a time: a number, with a letter for what it counts. -/
def isTime (word : String) : Bool :=
  let cs := word.toList
  let cs := if cs.getLast?.any "smhd".toList.contains then cs.dropLast else cs
  let whole := cs.takeWhile Char.isDigit
  match cs.drop whole.length with
  | [] => !whole.isEmpty
  | '.' :: places => places.all Char.isDigit && !(whole ++ places).isEmpty
  | _ => false

/-- No time passes for those who wait. -/
def sleep (words : List String) : Work Nat :=
  withArguments "sleep" { plain := "" } 1 words fun a => do
    if a.operands.isEmpty then return ← missingOperand "sleep" 1
    let wrong := a.operands.filter fun word => !isTime word
    wrong.forM fun word => Work.complain ("sleep: invalid time interval " ++ quoted word ++ "\n")
    if wrong.isEmpty then return 0
    Work.complain "Try 'sleep --help' for more information.\n"
    return 1

/-- Tells where programs are found. -/
def which (words : List String) : Work Nat :=
  withArguments "which" { plain := "a" } 2 words fun a => do
    let j ← get
    let found := a.operands.map fun name =>
      (Shell.locate j ((j.value? "PATH").getD "") name).toOption.filter fun path =>
        match j.find path with
        | .ok (_, stored) => stored.runs
        | .error _ => false
    let status := if found.all (·.isSome) ∧ !found.isEmpty then 0 else 1
    output "which" (unlines (found.filterMap id)) status

/-- Says where two files differ first. -/
def cmp (words : List String) : Work Nat :=
  withArguments "cmp" { plain := "slb" } 2 words fun a => do
    match a.operands with
    | [first, second] =>
      match ← contents first, ← contents second with
      | .error e, _ =>
        let _ ← if a.has 's' then pure 0 else report "cmp" first e
        return 2
      | _, .error e =>
        let _ ← if a.has 's' then pure 0 else report "cmp" second e
        return 2
      | .ok x, .ok y =>
        if x = y then return 0
        if a.has 's' then return 1
        let same := ((x.toList.zip y.toList).takeWhile fun (c, d) => c == d).length
        let place := if same = min x.length y.length then none else some same
        let line := (x.toList.take same).count '\n' + 1
        match place with
        | some n =>
          output "cmp" (first ++ " " ++ second ++ " differ: char " ++ toString (n + 1) ++
            ", line " ++ toString line ++ "\n") 1
        | none =>
          let short := if x.length < y.length then first else second
          Work.complain ("cmp: EOF on " ++ short ++ " after byte " ++ toString same ++ ", line " ++
            toString line ++ "\n")
          return 1
    | _ => misuse "cmp" "missing operand" 2

end ModemBench.Utility
