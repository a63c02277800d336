import ModemBench.Bench.Job
import ModemBench.Bench.Utility.Names
/-!
How programs read their arguments: letters behind a dash, some of them with a value, anywhere among
the operands.
-/

namespace ModemBench.Utility

/-- Options with their values, and the other arguments. -/
structure Arguments where
  options : List (Char × String) := []
  operands : List String := []

namespace Arguments

def has (a : Arguments) (letter : Char) : Bool := a.options.any (·.1 == letter)

/-- The value of an option; of several the last counts. -/
def value? (a : Arguments) (letter : Char) : Option String :=
  (a.options.reverse.find? (·.1 == letter)).map (·.2)

def addOption (letter : Char) (value : String) (a : Arguments) : Arguments :=
  { a with options := (letter, value) :: a.options }

end Arguments

/-- What is wrong with arguments. -/
inductive Misuse where
  | unknown (letter : Char)
  | unknownName (name : String)
  | noValue (letter : Char)

def Misuse.message (program : String) : Misuse → String
  | unknown letter => program ++ ": invalid option -- '" ++ String.ofList [letter] ++ "'\n" ++ help
  | unknownName name => program ++ ": unrecognized option '" ++ name ++ "'\n" ++ help
  | noValue letter =>
    program ++ ": option requires an argument -- '" ++ String.ofList [letter] ++ "'\n" ++ help
where
  help := "Try '" ++ program ++ " --help' for more information.\n"

/-- What letters are known to a program: those without a value, those with one, and names for
them. -/
structure Known where
  plain : String
  valued : String := ""
  names : List (String × Char) := []
  /-- Whether options stand before all operands. -/
  first : Bool := false

/-- The letters behind a dash; the last may have its value in the next word. -/
def letters (k : Known) : List Char → (next : List String) →
    Except Misuse (List (Char × String) × List String)
  | [], next => .ok ([], next)
  | c :: rest, next =>
    if k.valued.contains c then
      if !rest.isEmpty then .ok ([(c, String.ofList rest)], next)
      else match next with
        | [] => .error (.noValue c)
        | value :: left => .ok ([(c, value)], left)
    else if k.plain.contains c then do
      let (more, left) ← letters k rest next
      .ok ((c, "") :: more, left)
    else .error (.unknown c)

def read (k : Known) : (fuel : Nat) → List String → Except Misuse Arguments
  | 0, words => .ok { operands := words }
  | _ + 1, [] => .ok {}
  | fuel + 1, word :: rest =>
    match word.toList with
    | ['-', '-'] => .ok { operands := rest }
    | '-' :: '-' :: name =>
      let key := String.ofList (name.takeWhile (· != '='))
      let value := String.ofList ((name.dropWhile (· != '=')).drop 1)
      match k.names.lookup key with
      | some letter => (read k fuel rest).map (·.addOption letter value)
      | none => .error (.unknownName word)
    | '-' :: c :: cs => do
      let (found, left) ← letters k (c :: cs) rest
      let more ← read k fuel left
      .ok { more with options := found ++ more.options }
    | _ =>
      if k.first then .ok { operands := word :: rest }
      else do
        let more ← read k fuel rest
        .ok { more with operands := word :: more.operands }

/-- Does something with arguments that are in order, and says what is wrong with others. -/
def withArguments (program : String) (k : Known) (failure : Nat) (words : List String)
    (action : Arguments → Work Nat) : Work Nat := do
  match read k (words.length + 1) words with
  | .ok a => action a
  | .error e =>
    Work.complain (e.message program)
    return failure

def missingOperand (program : String) (failure : Nat) : Work Nat := do
  Work.complain (program ++ ": missing operand\nTry '" ++ program ++
    " --help' for more information.\n")
  return failure

def report (program text : String) (e : SystemError) : Work Nat := do
  Work.complain (program ++ ": " ++ text ++ ": " ++ e.text ++ "\n")
  return 1

/-- Does something for each of several operands, and fails if that failed for one of them. -/
def forAll (operands : List String) (action : String → Work Nat) : Work Nat := do
  let mut worst := 0
  for operand in operands do
    worst := max worst (← action operand)
  return worst

end ModemBench.Utility
