import ModemBench.Bench.Shell.Builtin.Basic
/-!
The command that goes through the options among arguments, one letter each time it is run.
-/

namespace ModemBench.Shell.Builtin

/-- One letter that was found, and where the next one is. -/
structure Step where
  letter : Char := '?'
  value : Option String := none
  complaint : Option String := none
  place : Nat
  within : Option Nat := none
  done : Bool := false

/-- What the letters that are asked for say of one: whether it has a value. -/
def wanted? (letters : List Char) (c : Char) : Option Bool :=
  match letters with
  | [] => none
  | l :: ':' :: rest => if l = c then some true else wanted? rest c
  | l :: rest => if l = c then some false else wanted? rest c

/-- One step through arguments, where `place` counts from one and `within` tells how far the word
before that has been read. -/
def step (letters : List Char) (arguments : List String) (place : Nat) (within : Option Nat) :
    Step :=
  let quiet := letters.head? = some ':'
  let begun : List Char := match within with
    | some n => if place ≤ 1 then [] else ((arguments.getD (place - 2) "").toList).drop n
    | none => []
  let current : Option (List Char × Nat) :=
    if !begun.isEmpty then some (begun, place)
    else match (arguments[place - 1]?).map String.toList with
      | some ('-' :: c :: cs) => some (c :: cs, place + 1)
      | _ => none
  match current with
  | none => { place, done := true }
  | some ([], next) => { place := next, done := true }
  | some (c :: rest, next) =>
    let word := arguments.getD (next - 2) ""
    let held : Option Nat := some (word.length - rest.length)
    if begun.isEmpty ∧ word = "--" then { place := next, done := true }
    else
      let shown := String.ofList [c]
      match wanted? letters c with
      | none =>
        { place := next
          within := held
          value := if quiet then some shown else none
          complaint := if quiet then none else some ("Illegal option -" ++ shown) }
      | some false => { letter := c, value := some "", place := next, within := held }
      | some true =>
        if !rest.isEmpty then
          { letter := c, value := some (String.ofList rest), place := next }
        else match arguments[next - 1]? with
          | some value => { letter := c, value := some value, place := next + 1 }
          | none =>
            { letter := if quiet then ':' else '?'
              value := if quiet then some shown else none
              complaint := if quiet then none else some ("No arg for -" ++ shown ++ " option")
              place := next }

def getopts (words : List String) : Act Nat := do
  let (_, words) ← options "" "" words
  match words with
  | letters :: word :: others =>
    let (name, _) := split word
    let sh ← get
    let arguments := if others.isEmpty then sh.arguments else others
    let (place, within) :=
      if arguments.length + 1 < sh.optionPlace then (1, none)
      else (sh.optionPlace, sh.optionWithin)
    let s := step letters.toList arguments place within
    match s.complaint with
    | some text => Act.work (Work.complain (text ++ "\n"))
    | none => pure ()
    match s.value with
    | some value => Act.assign "OPTARG" value
    | none => unless s.done do modify (·.unbind "OPTARG")
    Act.assign "OPTIND" (toString s.place)
    demandName name name
    Act.assign name (String.ofList [s.letter])
    modify fun sh => { sh with optionPlace := s.place, optionWithin := s.within }
    return if s.done then 1 else 0
  | _ => Act.refuse "Usage: getopts optstring var [arg...]"

end ModemBench.Shell.Builtin
