import ModemBench.Settings.LogFilter.Pattern.Brackets
import ModemBench.Text.Alphanumeric
/-!
Patterns in log filters: regular expressions without classes of scripts, without wide word
boundaries and without counted repetition. Here they are only told from texts that are none.
-/

namespace ModemBench.Pattern

/-- The mode that flags ask for, from where `on` says whether they are set or unset; `seen` are
the flags so far. A flag stands once, and one has to follow the minus sign. -/
def flags? (seen : List Char) (on : Bool) (m : Mode) : List Char → Option (Mode × List Char)
  | [] => none
  | c :: rest =>
    if c = ':' ∨ c = ')' then if seen.head? = some '-' then none else some (m, c :: rest)
    else if seen.contains c then none
    else if c = '-' then flags? (c :: seen) false m rest
    else if c = 'i' then flags? (c :: seen) on { m with anyCase := on } rest
    else if c = 'u' then flags? (c :: seen) on { m with wide := on } rest
    else if c = 'x' then flags? (c :: seen) on { m with spaced := on } rest
    else if ['m', 's', 'U', 'R'].contains c then flags? (c :: seen) on m rest
    else none

def isGroupName (cs : List Char) : Bool :=
  match cs with
  | [] => false
  | c :: rest =>
    (c == '_' || Text.isLetter c) &&
      rest.all fun c => Text.isAlphanumeric c || ['_', '.', '[', ']'].contains c

/-- What an opening parenthesis begins: a group with a mode of its own, or a change of the mode. -/
inductive Opening where
  | group (inner : Mode) (name : Option (List Char))
  | flags (m : Mode)
deriving Repr, DecidableEq

def opening? (m : Mode) (cs : List Char) : Option (Opening × List Char) :=
  match m.skip cs with
  | '?' :: 'P' :: '<' :: rest => named? rest
  | '?' :: '<' :: rest => named? rest
  | '?' :: ')' :: _ => none
  | '?' :: rest =>
    match flags? [] true m rest with
    | some (inner, ':' :: left) => some (.group inner none, left)
    | some (inner, ')' :: left) => some (.flags inner, left)
    | _ => none
  | cs => some (.group m none, cs)
where
  named? (cs : List Char) : Option (Opening × List Char) :=
    let name := cs.takeWhile (· != '>')
    match cs.dropWhile (· != '>') with
    | [] => none
    | _ :: left => if isGroupName name then some (.group m (some name), left) else none

/-- A part of a pattern, with its depth. A change of the mode cannot be repeated. -/
structure Part where
  depth : Nat
  repeatable : Bool := true
deriving Repr, DecidableEq

/-- Parts behind each other are a level of their own. -/
def rowDepth (parts : List Part) : Nat :=
  match parts with
  | [] => 0
  | [part] => part.depth
  | _ => (parts.foldl (fun deepest part => max deepest part.depth) 0) + 1

/-- The depth of a choice between the branches before and the last one. -/
def choiceDepth (branches : Option Nat) (parts : List Part) : Nat :=
  match branches with
  | none => rowDepth parts
  | some deepest => max deepest (rowDepth parts) + 1

/-- The names of groups are different from each other. -/
def named? (names : List (List Char)) : Option (List Char) → Option (List (List Char))
  | none => some names
  | some name => if names.contains name then none else some (name :: names)

/-- What follows the sign of a repetition, which may be a lazy one. -/
def afterRepetition (cs : List Char) : List Char :=
  match cs with
  | '?' :: rest => rest
  | _ => cs

/-- A character that is neither a group nor a repetition, and what comes with it. -/
def single? (m : Mode) (c : Char) (rest : List Char) : Option (Part × List Char) :=
  if c = '\x7b' then none
  else if c = '[' then (class? m rest).map fun (depth, left) => ({ depth }, left)
  else if c = '.' then if m.wide then some ({ depth := 0 }, rest) else none
  else if c = '^' ∨ c = '$' then some ({ depth := 0 }, rest)
  else if c = '\\' then
    match escape? m rest with
    | some (.letter c byte, left) => if m.takes c byte then some ({ depth := 0 }, left) else none
    | some (_, left) => some ({ depth := 0 }, left)
    | none => none
  else if m.takes c false then some ({ depth := 0 }, rest)
  else none

/-- A pattern up to its end or the end of the group that it is in. `branches` is the depth of the
deepest branch before, and `parts` are those of this branch, the last one first. Gives the depth
of all of it, the names of groups, and what is left. -/
def body? : (fuel : Nat) → Mode → (names : List (List Char)) → (branches : Option Nat) →
    (parts : List Part) → List Char → Option (Nat × List (List Char) × List Char)
  | 0, _, _, _, _, _ => none
  | fuel + 1, m, names, branches, parts, cs =>
    match m.skip cs with
    | [] => some (choiceDepth branches parts, names, [])
    | ')' :: rest => some (choiceDepth branches parts, names, ')' :: rest)
    | '|' :: rest =>
      body? fuel m names (some (max (branches.getD 0) (rowDepth parts))) [] rest
    | '(' :: rest =>
      match opening? m rest with
      | none => none
      | some (.flags m, left) => body? fuel m names branches (⟨0, false⟩ :: parts) left
      | some (.group inner name, left) => do
        match ← body? fuel inner (← named? names name) none [] left with
        | (depth, names, ')' :: left) =>
          body? fuel m names branches ({ depth := depth + 1 } :: parts) left
        | _ => none
    | c :: rest =>
      if ['*', '+', '?'].contains c then
        match parts with
        | ⟨depth, true⟩ :: parts =>
          body? fuel m names branches ({ depth := depth + 1 } :: parts) (afterRepetition rest)
        | _ => none
      else do
        let (part, left) ← single? m c rest
        body? fuel m names branches (part :: parts) left

/-- The most levels of a pattern. -/
def deepest : Nat := 250

def isPattern (text : List Char) : Bool :=
  match body? (text.length + 1) {} [] none [] text with
  | some (depth, _, []) => depth ≤ deepest
  | _ => false

/-- A number with a plus sign, which would be a repetition of nothing if it were a pattern. -/
def isPlusNumber (cs : List Char) : Bool :=
  match cs with
  | '+' :: rest =>
    let name := String.ofList (rest.map Char.toLower)
    if ["inf", "infinity", "nan"].contains name then true
    else
      let left := rest.dropWhile Char.isDigit
      let places := match left with
        | '.' :: left => left
        | _ => []
      let left := if left.head? = some '.' then places.dropWhile Char.isDigit else left
      ((rest.head?.any Char.isDigit) || (places.head?.any Char.isDigit)) && power left
  | _ => false
where
  power (cs : List Char) : Bool :=
    match cs with
    | [] => true
    | c :: rest =>
      let digits := match rest with
        | '+' :: digits | '-' :: digits => digits
        | _ => rest
      (c == 'e' || c == 'E') && !digits.isEmpty && digits.all Char.isDigit

/-- Whether a text is a pattern, or a number where that is looked for first. -/
def isValid (text : List Char) : Bool :=
  isPlusNumber text || isPattern text

end ModemBench.Pattern
