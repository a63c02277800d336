import ModemBench.Bench.Utility.Options
/-!
How programs read files and what is given to them, and how they print.
-/

namespace ModemBench.Utility

/-- All that is in a file, or all that is left to read where a dash is given for it. -/
def contents (path : String) : Work (Except SystemError String) := do
  if path = "-" ∨ path = "/dev/stdin" then
    return match ← Work.readAll 0 with
      | some text => .ok text
      | none => .error .badDescriptor
  match (← get).find path with
  | .error e => return .error e
  | .ok (_, .folder) => return .error .isFolder
  | .ok (place, _) =>
    return .ok (String.ofList (Text.Raw.ofBytes ((← get).machine.content (.file place))))

/-- Prints a text at the end of a program, which fails if that is not possible. -/
def output (program text : String) (status : Nat) (failure : Nat := 1) : Work Nat := do
  if text.isEmpty then return status
  if ← Work.write 1 text then return status
  let _ ← report program "write error" .badDescriptor
  return failure

/-- What is in several files, or in what can be read where none is named. Files that cannot be read
are told of and count as failed. -/
def inputs (program : String) (operands : List String) (blame : String → String) :
    Work (List (String × String) × Bool) := do
  let mut found := []
  let mut failed := false
  for path in if operands.isEmpty then ["-"] else operands do
    match ← contents path with
    | .ok text => found := found ++ [(path, text)]
    | .error e =>
      let _ ← report program (blame path) e
      failed := true
  return (found, failed)

/-- The lines of a text without their ends. -/
def lines (text : String) : List String :=
  let parts := text.splitOn "\n"
  if parts.getLast? = some "" then parts.dropLast else parts

def unlines (ls : List String) : String := String.join (ls.map (· ++ "\n"))

/-- A count in digits. -/
def count? (word : String) : Option Nat :=
  if !word.isEmpty ∧ word.toList.all Char.isDigit then word.toNat? else none

/-- A text with blanks in front of it up to a width. -/
def aligned (width : Nat) (text : String) : String :=
  String.ofList (List.replicate (width - text.length) ' ') ++ text

/-- What is wrong with the arguments of a program, with a hint. -/
def misuse (program text : String) (status : Nat) : Work Nat := do
  Work.complain (program ++ ": " ++ text ++ "\nTry '" ++ program ++
    " --help' for more information.\n")
  return status

end ModemBench.Utility
