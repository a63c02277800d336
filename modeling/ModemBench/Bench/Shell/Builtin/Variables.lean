import ModemBench.Bench.Shell.Builtin.Basic
/-!
Commands on variables and on the options of a shell.
-/

namespace ModemBench.Shell.Builtin

/-- The options of a shell, some of which have a letter. -/
def optionNames : List (String × Option Char) := [
  ("errexit", 'e'), ("noglob", 'f'), ("ignoreeof", 'I'), ("interactive", 'i'), ("monitor", 'm'),
  ("noexec", 'n'), ("stdin", 's'), ("xtrace", 'x'), ("verbose", 'v'), ("vi", 'V'), ("emacs", 'E'),
  ("noclobber", 'C'), ("allexport", 'a'), ("notify", 'b'), ("nounset", 'u'), ("privileged", 'p'),
  ("nolog", none), ("debug", none)]

def turn (on : Bool) (letter : Char) : Act Unit :=
  modify fun sh =>
    let others := sh.options.filter (· ≠ letter)
    { sh with options := if on then letter :: others else others }

def turnLetter (on : Bool) (letter : Char) : Act Unit := do
  unless optionNames.any fun (_, known) => known = some letter do
    Act.refuse ("Illegal option -" ++ String.ofList [letter])
  turn on letter

def turnName (on : Bool) (name : String) : Act Unit := do
  match optionNames.lookup name with
  | some (some letter) => turn on letter
  | some none => return
  | none => Act.refuse ("Illegal option -o " ++ name)

/-- Tells which options are on, for people or as commands that turn them on and off. -/
def tellOptions (plainly : Bool) : Act Unit := do
  let sh ← get
  let isOn (letter : Option Char) : Bool := letter.any sh.isSet
  let lines := optionNames.map fun (name, letter) =>
    if plainly then
      let gap := String.ofList (List.replicate (16 - name.length) ' ')
      name ++ gap ++ (if isOn letter then "on" else "off") ++ "\n"
    else "set " ++ (if isOn letter then "-" else "+") ++ "o " ++ name ++ "\n"
  Act.print ((if plainly then "Current option settings\n" else "") ++ String.join lines)

/-- The letters of one word of options. A name for an option is in the next word. Says whether the
letter of a text that is to be run was among them, where that is allowed. -/
def turnLetters (start on : Bool) : List Char → (rest : List String) →
    Act (Bool × List String)
  | [], rest => return (false, rest)
  | letter :: more, rest => do
    if start ∧ letter = 'c' then
      let (_, rest) ← turnLetters start on more rest
      return (true, rest)
    else if start ∧ letter = 'l' then turnLetters start on more rest
    else if letter = 'o' then
      match rest with
      | [] =>
        tellOptions on
        turnLetters start on more []
      | name :: rest =>
        turnName on name
        turnLetters start on more rest
    else
      turnLetter on letter
      turnLetters start on more rest

/-- Options in front of arguments. Gives whether a text is to be run, and the arguments, which are
only there if there are any or if they were asked for by a double dash. -/
def turnOptions (start : Bool) : (fuel : Nat) → List String →
    Act (Bool × Option (List String))
  | 0, _ | _ + 1, [] => return (false, none)
  | fuel + 1, word :: rest => do
    match word.toList with
    | ['-'] =>
      unless start do
        turn false 'x'
        turn false 'v'
      return (false, if rest.isEmpty then none else some rest)
    | ['-', '-'] => return (false, some rest)
    | sign :: letters =>
      if sign ≠ '-' ∧ sign ≠ '+' then return (false, some (word :: rest))
      let (here, rest) ← turnLetters start (sign = '-') letters rest
      let (more, arguments) ← turnOptions start fuel rest
      return (here || more, arguments)
    | [] => return (false, some (word :: rest))

def setArguments (words : List String) : Act Unit :=
  modify fun sh => { sh with arguments := words, optionPlace := 1, optionWithin := none }

def setAny (words : List String) : Act Nat := do
  if words.isEmpty then
    Act.print (settings (← get) "" (·.value.isSome))
    return 0
  let (_, arguments) ← turnOptions false (words.length + 1) words
  match arguments with
  | some words => setArguments words
  | none => pure ()
  return 0

def forget (words : List String) : Act Nat := do
  let (options, words) ← options "vf" "" words
  let ofFunctions := (options.getLast?.map (·.1)) = some 'f'
  for word in words do
    if ofFunctions then
      modify fun sh => { sh with functions := sh.functions.filter (·.1 ≠ word) }
    else
      let (name, _) := split word
      demandName name name
      Act.change name fun v => { v with value := none }
      modify fun sh => sh.unbind name
  return 0

/-- Gives variables a mark, and a value if there is one. -/
def mark (lead : String) (has : Variable → Bool) (give : Variable → Variable)
    (words : List String) : Act Nat := do
  let (options, words) ← options "p" "" words
  if words.isEmpty ∨ !options.isEmpty then
    Act.print (settings (← get) (lead ++ " ") has)
    return 0
  for word in words do
    let (name, value) := split word
    demandName name name
    match value with
    | some value => Act.assign name value
    | none => pure ()
    modify fun sh => sh.bind name (give ((sh.binding? name).getD {}))
  return 0

/-- What the options are kept under while a function has its own. -/
def optionsName : String := "-"

/-- Variables that are as they were before when a function ends. -/
def own (words : List String) : Act Nat := do
  if (← get).depth = 0 then Act.refuse "not in a function"
  for word in words do
    let sh ← get
    if word = optionsName then
      let kept : Variable := { value := String.ofList sh.options }
      modify fun sh => { sh with locals := (optionsName, some kept) :: sh.locals }
    else
      let (name, value) := split word
      demandName name name
      modify fun sh => { sh with locals := (name, sh.binding? name) :: sh.locals }
      match value with
      | some value => Act.assign name value
      | none => if (sh.binding? name).isNone then modify (·.bind name {})
  return 0

/-- A line that is read, up to its end, or up to the end of all. What stood behind a backslash is
marked; lines may be joined by one. -/
def readLine (plain : Bool) : (fuel : Nat) → Act (List (Char × Bool) × Bool)
  | 0 => return ([], false)
  | fuel + 1 => do
    match ← Act.work (Work.readLine 0) with
    | none => return ([], false)
    | some line =>
      let cs := line.toList
      let ended := cs.getLast? = some '\n'
      let cs := (if ended then cs.dropLast else cs).filter (· ≠ '\x00')
      if plain then return (cs.map (·, false), ended)
      let (found, open_) := unescaped cs
      if open_ ∧ ended then
        let (more, ended) ← readLine plain fuel
        return (found ++ more, ended)
      return (found, ended)
where
  unescaped : List Char → List (Char × Bool) × Bool
    | [] => ([], false)
    | ['\\'] => ([], true)
    | '\\' :: c :: rest =>
      let (found, open_) := unescaped rest
      ((c, true) :: found, open_)
    | c :: rest =>
      let (found, open_) := unescaped rest
      ((c, false) :: found, open_)

/-- Parts of a line for so many variables, the last of which gets all that is left, without the
separators at its end. What is `held` is the part begun, its last character first; `cut` says how
much of it stays. -/
def parts (s : Separators) (limit : Nat) (blank : Bool) (held : List Char) (cut : Option Nat) :
    List (Char × Bool) → List String
  | [] =>
    let cs := held.reverse
    let cs := cut.elim cs (cs.take ·)
    if cs.isEmpty then [] else [String.ofList cs]
  | (c, true) :: rest => parts s limit false (c :: held) cut rest
  | (c, false) :: rest =>
    let isBlank := s.blanks.contains c
    let separates := isBlank || s.others.contains c
    let usual := " \t\n".toList.contains c
    if limit = 0 then
      if separates ∧ usual then parts s 0 blank (c :: held) (cut.or (some held.length)) rest
      else parts s 0 false (c :: held) (if separates ∧ blank then cut else none) rest
    else if blank ∧ separates then parts s limit isBlank held cut rest
    else if !separates then parts s limit false (c :: held) cut rest
    else if isBlank ∧ held.isEmpty then parts s limit false held cut rest
    else if limit = 1 then parts s 0 isBlank (c :: held) (some held.length) rest
    else String.ofList held.reverse :: parts s (limit - 1) isBlank [] none rest

def readWords (words : List String) : Act Nat := do
  let (options, names) ← options "r" "p" words
  if names.isEmpty then Act.refuse "arg count"
  let (line, ended) ← readLine (options.any (·.1 == 'r')) 1000000
  let found := parts (.ofList (← get).separators) names.length false [] none line
  for (word, i) in names.zipIdx do
    let (name, _) := split word
    demandName name name
    Act.assign name (found.getD i "")
  return if ended then 0 else 1

/-- Commands on variables and options. -/
def ofVariables : List (String × Builtin) := [
  ("set", { special := true, run := fun _ _ _ words => setAny words }),
  ("unset", { special := true, run := fun _ _ _ words => forget words }),
  ("export", {
    special := true
    assigns := true
    run := fun _ _ _ words =>
      mark "export" (·.exported) (fun v => { v with exported := true }) words }),
  ("readonly", {
    special := true
    assigns := true
    run := fun _ _ _ words =>
      mark "readonly" (·.fixed) (fun v => { v with fixed := true }) words }),
  ("local", { special := true, assigns := true, run := fun _ _ _ words => own words }),
  ("read", { run := fun _ _ _ words => readWords words })]

end ModemBench.Shell.Builtin
