import ModemBench.Bench.Shell.Lookup
import ModemBench.Bench.Utility.Input
/-!
Programs that run others: with other surroundings, with words that they read, or for a time.
-/

namespace ModemBench.Utility

open Shell (Calls)

/-- Runs another program in a process of its own, or in place of this one. What cannot be started
is told of. -/
def start (c : Calls) (program : String) (words : List String) : Work ExitStatus := do
  let name := words.headD ""
  let path := ((← get).value? "PATH").getD System.path
  match ← Shell.launchFirst c words .missing (Shell.candidates path name) with
  | .ok status => return status
  | .error e =>
    let shown := if program = "xargs" then name
      else if program = "env" then quoted name
      else "failed to run command " ++ quoted name
    let _ ← report program shown e
    return .code (if e = .missing ∨ e = .throughFile then 127 else 126)

/-- Runs a program with settings changed, or tells what they are. -/
def env (c : Calls) (words : List String) : Work ExitStatus := do
  match read { plain := "i0", valued := "u", first := true } (words.length + 1) words with
  | .error e =>
    Work.complain (e.message "env")
    return .code 125
  | .ok a =>
    let cleared := a.has 'i' || a.operands.head? = some "-"
    let operands := if a.operands.head? = some "-" then a.operands.tail else a.operands
    let settings := operands.takeWhile (·.contains '=')
    let command := operands.drop settings.length
    let removed := (a.options.filter (·.1 == 'u')).map (·.2)
    let before := (← get).environment
    let kept := if cleared then [] else before.filter fun (name, _) => !removed.contains name
    let environment := settings.foldl (fun es word =>
      let name := String.ofList (word.toList.takeWhile (· != '='))
      let value := String.ofList (word.toList.drop (name.length + 1))
      es.filter (·.1 ≠ name) ++ [(name, value)]) kept
    modify fun j => { j with environment }
    if command.isEmpty then
      let text := unlines (environment.map fun (name, value) => name ++ "=" ++ value)
      return .code (← output "env" text 0)
    start c "env" command

/-- Words between blanks, in which quotes and backslashes keep blanks. -/
def given : (fuel : Nat) → (quote : Option Char) → (held : Option (List Char)) → List Char →
    List String
  | 0, _, _, _ => []
  | _ + 1, _, held, [] => (held.map fun cs => String.ofList cs.reverse).toList
  | fuel + 1, some q, held, c :: rest =>
    if c = q then given fuel none held rest
    else given fuel (some q) (some (c :: held.getD [])) rest
  | fuel + 1, none, held, c :: rest =>
    if c = '\\' then
      match rest with
      | d :: rest => given fuel none (some (d :: held.getD [])) rest
      | [] => given fuel none held []
    else if c = '"' ∨ c = '\x27' then given fuel (some c) (some (held.getD [])) rest
    else if c = ' ' ∨ c = '\n' ∨ c = '\t' then
      (held.map fun cs => String.ofList cs.reverse).toList ++ given fuel none none rest
    else given fuel none (some (c :: held.getD [])) rest

/-- Words in groups of so many. -/
def grouped (n : Nat) : (fuel : Nat) → List String → List (List String)
  | 0, _ | _ + 1, [] => []
  | fuel + 1, words => words.take n :: grouped n fuel (words.drop n)

/-- Runs a program with words that are read. -/
def xargs (c : Calls) (words : List String) : Work ExitStatus := do
  match read { plain := "0rtx", valued := "nIL", first := true } (words.length + 1) words with
  | .error e =>
    Work.complain (e.message "xargs")
    return .code 1
  | .ok a =>
    let text := ((← Work.readAll 0).getD "")
    let found := if a.has '0' then text.splitOn "\x00" |>.filter (· ≠ "")
      else if a.has 'I' then (lines text).map fun line =>
        String.ofList (line.toList.dropWhile (· == ' '))
      else given (text.length + 1) none none text.toList
    let command := if a.operands.isEmpty then ["echo"] else a.operands
    let runs := match a.value? 'I' with
      | some mark => found.map fun word =>
        command.map fun (part : String) => String.intercalate word (part.splitOn mark)
      | none =>
        let n := ((a.value? 'n').bind count?).getD (found.length + 1)
        let groups := grouped n (found.length + 1) found
        (if groups.isEmpty ∧ !a.has 'r' then [[]] else groups).map (command ++ ·)
    modify fun j => j.openOn 0 { stream := .nowhere, reads := true }
    let mut worst := 0
    for words in runs do
      match ← start c "xargs" words with
      | .code n =>
        if n = 126 ∨ n = 127 then return .code n
        if n = 255 then
          Work.complain ("xargs: " ++ words.headD "" ++ ": exited with status 255; aborting\n")
          return .code 124
        if n ≠ 0 then worst := 123
      | .signal n _ =>
        Work.complain ("xargs: " ++ words.headD "" ++ ": terminated by signal " ++ toString n ++
          "\n")
        return .code 125
    return .code worst

/-- Runs a program as it is, behind options and so many words that are for this one. -/
def aside (c : Calls) (program : String) (valued : String) (own : Nat) (words : List String) :
    Work ExitStatus := do
  match read { plain := "fvp", valued, first := true } (words.length + 1) words with
  | .error e =>
    Work.complain (e.message program)
    return .code 125
  | .ok a =>
    let command := a.operands.drop own
    if command.isEmpty then return .code (← missingOperand program 125)
    start c program command

end ModemBench.Utility
