import ModemBench.Bench.Shell.Calls
/-!
Commands that are parts of a shell, and what they have in common: how they read their arguments,
and how they write texts that a shell can read again.
-/

namespace ModemBench.Shell

structure Builtin where
  /-- An error in such a command ends a script, and settings in front of it stay. -/
  special : Bool := false
  /-- Whether settings among its arguments are read as settings. -/
  assigns : Bool := false
  /-- Runs it by the name that it was called by, and gives its status. -/
  run : (c : Calls) → Mode → (name : String) → List String → Act Nat

namespace Builtin

/-- The letters behind a dash, the last of which may have a value. -/
def letters (plain valued : String) : List Char → (rest : List String) →
    Act (List (Char × String) × List String)
  | [], rest => return ([], rest)
  | letter :: more, rest => do
    if plain.contains letter then
      let (options, rest) ← letters plain valued more rest
      return ((letter, "") :: options, rest)
    else if !valued.contains letter then
      Act.refuse ("Illegal option -" ++ String.ofList [letter])
    else if !more.isEmpty then return ([(letter, String.ofList more)], rest)
    else match rest with
      | value :: rest => return ([(letter, value)], rest)
      | [] => Act.refuse ("No arg for -" ++ String.ofList [letter] ++ " option")

/-- The options in front of arguments, and the arguments behind them. -/
def options (plain valued : String) (words : List String) :
    Act (List (Char × String) × List String) :=
  go words.length words
where
  go : (fuel : Nat) → List String → Act (List (Char × String) × List String)
    | fuel + 1, word :: rest => do
      match word.toList with
      | '-' :: '-' :: [] => return ([], rest)
      | '-' :: c :: cs =>
        let (here, rest) ← letters plain valued (c :: cs) rest
        let (more, rest) ← go fuel rest
        return (here ++ more, rest)
      | _ => return ([], word :: rest)
    | _, words => return ([], words)

/-- A text in quotes, in which apostrophes stand in quotes of the other kind. -/
def quoted (text : String) : String :=
  String.ofList (go (text.length + 1) text.toList)
where
  go : (fuel : Nat) → List Char → List Char
    | 0, _ => []
    | fuel + 1, cs =>
      let plain := cs.takeWhile (· != '\x27')
      let left := cs.drop plain.length
      let marks := left.takeWhile (· == '\x27')
      let rest := left.drop marks.length
      '\x27' :: plain ++ ['\x27'] ++ (if marks.isEmpty then [] else '"' :: marks ++ ['"']) ++
        if rest.isEmpty then [] else go fuel rest

/-- A setting as it is told: a variable without a value only has a name. -/
def setting (lead name : String) (v : Variable) : String :=
  lead ++ name ++ ((v.value.map fun value => "=" ++ quoted value).getD "") ++ "\n"

/-- The settings of a kind, in the order of their names. -/
def settings (sh : Shell) (lead : String) (kind : Variable → Bool) : String :=
  let found := (sh.bindings.filter fun (_, v) => kind v).mergeSort fun a b => a.1 ≤ b.1
  String.join (found.map fun (name, v) => setting lead name v)

/-- The name in a word, and the value behind an equals sign if there is one. -/
def split (word : String) : String × Option String :=
  let name := word.toList.takeWhile (· != '=')
  let rest := word.toList.drop name.length
  (String.ofList name, if rest.isEmpty then none else some (String.ofList (rest.drop 1)))

def demandName (name whole : String) : Act Unit := do
  unless Script.isName name.toList do Act.refuse (whole ++ ": bad variable name")

/-- Does something for each of several words, and fails if that failed for one of them. -/
def worst (words : List String) (action : String → Act Nat) : Act Nat :=
  words.foldlM (fun status word => do return status ||| (← action word)) 0

end Builtin

end ModemBench.Shell
