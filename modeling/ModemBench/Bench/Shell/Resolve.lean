import ModemBench.Bench.Shell.Builtin
/-!
Which command the words of a script mean. Some of them are only worked out once it is clear what
the first ones are.
-/

namespace ModemBench.Shell

open Script (Word)

/-- What runs a command. -/
inductive Runner where
  /-- No words are left that would name a command. -/
  | none
  | function (body : Script.Command)
  | builtin (b : Builtin)
  /-- A program, which is looked for in a row of folders that was asked for, if one was. -/
  | program (path? : Option String)

structure Resolved where
  runner : Runner := .none
  words : List String := []
  /-- All words, also those that only say how the command is looked for. -/
  all : List String := []
  /-- Whether settings in front of the command stay, and errors end the script. -/
  special : Bool := false
  /-- Whether settings are for the command alone. -/
  own : Bool := false

/-- Words that have been worked out, and those that have not been yet. -/
structure Begun where
  done : List String := []
  left : List Word

/-- Works out words until there are more than so many. -/
def Begun.fill (capture : Capture) (n : Nat) (done : List String) : List Word → Act Begun
  | [] => return ⟨done, []⟩
  | word :: rest => do
    if n < done.length then return ⟨done, word :: rest⟩
    let fields ← expand capture word
    Begun.fill capture n (done ++ fields) rest

/-- Where the command that is run without functions has its name: behind options, of which only one
lets it be run. -/
inductive Behind where
  /-- The name is here, and is looked for in the usual folders if `usual`. -/
  | name (at_ : Nat) (usual : Bool) (b : Begun)
  /-- Nothing is run. -/
  | nothing (b : Begun)

def behind (capture : Capture) : (fuel : Nat) → (n : Nat) → (usual : Bool) → Begun → Act Behind
  | 0, _, _, b => return .nothing b
  | fuel + 1, n, usual, b => do
    let b ← Begun.fill capture n b.done b.left
    match (b.done[n]?).map String.toList with
    | none => return .nothing b
    | some ['-', '-'] =>
      let b ← Begun.fill capture (n + 1) b.done b.left
      return if n + 1 < b.done.length then .name (n + 1) usual b else .nothing b
    | some ('-' :: c :: cs) =>
      if (c :: cs).all (· == 'p') then behind capture fuel (n + 1) true b else return .nothing b
    | some _ => return .name n usual b

/-- Works out the words that are left. Where settings are read as settings, they do not fall into
fields. -/
def Begun.finish (capture : Capture) (assigns : Bool) (b : Begun) : Act (List String) := do
  let rest ← b.left.mapM fun word => do
    if assigns then
      match word.setting? with
      | some (name, value) => return [name ++ "=" ++ (← expandSetting capture value)]
      | none => expand capture word
    else expand capture word
  return b.done ++ rest.flatten

/-- What the command is whose name is the word at a place. -/
def lookUp (capture : Capture) : (fuel : Nat) → (n : Nat) → (path? : Option String) → Begun →
    Act (Runner × Nat × Begun)
  | 0, n, _, b => return (.none, n, b)
  | fuel + 1, n, path?, b => do
    let name := b.done.getD n ""
    let sh ← get
    match if n = 0 then sh.functions.lookup name else none with
    | some body => return (.function body, n, b)
    | none =>
      match Builtin.find? name with
      | none => return (.program path?, n, b)
      | some found =>
        if name ≠ "command" then return (.builtin found, n, b)
        match ← behind capture fuel (n + 1) false b with
        | .nothing b => return (.builtin found, n, b)
        | .name n usual b =>
          lookUp capture fuel n (if usual then some System.path else path?) b

/-- Works out the words of a command, and what command it is. -/
def resolve (capture : Capture) (words : List Word) : Act Resolved := do
  let b ← Begun.fill capture 0 [] words
  if b.done.isEmpty then return {}
  let (runner, n, b) ← lookUp capture pieces 0 none b
  let special := match runner with
    | .builtin found => n = 0 ∧ found.special
    | _ => false
  let assigns := match runner with
    | .builtin found => found.assigns
    | _ => false
  let all ← b.finish capture assigns
  return { runner, words := all.drop n, all, special, own := !special }

end ModemBench.Shell
