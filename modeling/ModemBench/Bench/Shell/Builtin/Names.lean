import ModemBench.Bench.Shell.Builtin.Basic
import ModemBench.Bench.Shell.Lookup
/-!
Commands on what names stand for: aliases, functions, commands of the shell and programs.
-/

namespace ModemBench.Shell.Builtin

def aliasText (name value : String) : String := name ++ "=" ++ quoted value ++ "\n"

/-- Finds a program, and remembers where it is. -/
def discover (path name : String) : Act (Except SystemError String) := do
  let sh ← get
  let found := locate sh.job path name
  match found with
  | .ok found =>
    unless name.contains '/' ∨ (sh.known.lookup name).isSome do
      set { sh with known := (name, found) :: sh.known }
  | .error _ => pure ()
  return found

/-- Tells what a name stands for, where `special?` knows the commands of the shell. -/
def describe (special? : String → Option Bool) (verbose : Bool) (path? : Option String)
    (name : String) : Act Nat := do
  let sh ← get
  let tell (long short : String) : Act Nat := do
    Act.print (if verbose then name ++ " is " ++ long ++ "\n" else short ++ "\n")
    return 0
  if Script.keywords.contains name then tell "a shell keyword" name
  else match sh.aliases.lookup name with
  | some value =>
    if verbose then tell ("an alias for " ++ value) ""
    else
      Act.print ("alias " ++ aliasText name value)
      return 0
  | none =>
    if path?.isNone ∧ (sh.functions.lookup name).isSome then tell "a shell function" name
    else match special? name with
    | some true => tell "a special shell builtin" name
    | some false => tell "a shell builtin" name
    | none =>
      let known? := if path?.isNone then sh.known.lookup name else none
      let found ← match known? with
        | some path => pure (some path)
        | none =>
          if name.contains '/' then pure (if sh.job.exists? name then some name else none)
          else pure (← discover (path?.getD sh.searchPath) name).toOption
      match found with
      | some path => tell (if known?.isSome then "a tracked alias for " ++ path else path) path
      | none =>
        if verbose then Act.print (name ++ ": not found\n")
        return 127

def aliases (words : List String) : Act Nat := do
  if words.isEmpty then
    let all := (← get).aliases.mergeSort fun a b => a.1 ≤ b.1
    Act.print (String.join (all.map fun (name, value) => aliasText name value))
    return 0
  worst words fun word => do
    match split word with
    | (name, some value) =>
      modify fun sh => { sh with
        aliases := (name, value) :: sh.aliases.filter (·.1 ≠ name) }
      return 0
    | (name, none) =>
      match (← get).aliases.lookup name with
      | some value =>
        Act.print (aliasText name value)
        return 0
      | none =>
        Act.work (Work.complain ("alias: " ++ name ++ " not found\n"))
        return 1

def unalias (words : List String) : Act Nat := do
  let (options, words) ← options "a" "" words
  if !options.isEmpty then
    modify fun sh => { sh with aliases := [] }
    return 0
  worst words fun name => do
    let sh ← get
    if (sh.aliases.lookup name).isNone then
      Act.work (Work.complain ("unalias: " ++ name ++ " not found\n"))
      return 1
    set { sh with aliases := sh.aliases.filter (·.1 ≠ name) }
    return 0

def hash (special? : String → Option Bool) (words : List String) : Act Nat := do
  let (options, words) ← options "r" "" words
  if !options.isEmpty then
    modify fun sh => { sh with known := [] }
    return 0
  if words.isEmpty then
    Act.print (String.join ((← get).known.map fun (_, path) => path ++ "\n"))
    return 0
  worst words fun name => do
    let sh ← get
    if (special? name).isSome ∨ (sh.functions.lookup name).isSome then return 0
    match ← discover sh.searchPath name with
    | .ok _ => return 0
    | .error e =>
      Act.complain (name ++ ": " ++ absence e)
      return 1

/-- What the command that has others run without functions does where it runs none. -/
def command (special? : String → Option Bool) (words : List String) : Act Nat := do
  let (options, words) ← options "pvV" "" words
  let has (letter : Char) : Bool := options.any (·.1 == letter)
  match words with
  | name :: _ =>
    if has 'v' ∨ has 'V' then
      describe special? (has 'V') (if has 'p' then some System.path else none) name
    else return 0
  | [] => return 0

/-- Commands on names. -/
def ofNames (special? : String → Option Bool) : List (String × Builtin) := [
  ("alias", { assigns := true, run := fun _ _ _ words => aliases words }),
  ("unalias", { run := fun _ _ _ words => unalias words }),
  ("hash", { run := fun _ _ _ words => hash special? words }),
  ("type", { run := fun _ _ _ words => worst words (describe special? true none) }),
  ("command", { run := fun _ _ _ words => command special? words })]

end ModemBench.Shell.Builtin
