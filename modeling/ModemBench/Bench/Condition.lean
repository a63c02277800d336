import ModemBench.Bench.Job
import ModemBench.Bench.Shell.Sum
/-!
Conditions on texts, numbers and files, as a row of words. A word may be an operator in one place
and a text in another; that depends on the words beside it.
-/

namespace ModemBench.Condition

inductive Kind where
  | unary
  | binary
  | joint
deriving Repr, DecidableEq

def unaries : List String := [
  "-r", "-w", "-x", "-e", "-f", "-d", "-c", "-b", "-p", "-u", "-g", "-k", "-s", "-t", "-z", "-n",
  "-h", "-O", "-G", "-L", "-S"]

def binaries : List String := [
  "=", "!=", "<", ">", "-eq", "-ne", "-ge", "-gt", "-le", "-lt", "-nt", "-ot", "-ef"]

def kind? (word : String) : Option Kind :=
  if unaries.contains word then some Kind.unary
  else if binaries.contains word then some Kind.binary
  else if ["!", "-a", "-o", "(", ")"].contains word then some .joint
  else none

/-- The operator that the first word is, where the words behind it let it be one. -/
def operator? (words : List String) : Option String :=
  match words with
  | [] => none
  | word :: rest =>
    match kind? word with
    | none => none
    | some Kind.unary =>
      match rest with
      | [] => none
      | [_] => some word
      | next :: _ => if kind? next = some Kind.binary then none else some word
    | some _ => if word = "(" ∧ rest.isEmpty then none else some word

abbrev Check := StateT (List String) (Except String)

/-- A decimal number with a sign and blanks around it. -/
def number (word : String) : Except String Int :=
  let (negative, cs) := match word.toList.dropWhile Sum.isSpace with
    | '-' :: rest => (true, rest)
    | '+' :: rest => (false, rest)
    | cs => (false, cs)
  let (ds, left) := Sum.digits 10 cs
  let n := ds.foldl (fun n d => n * 10 + d) 0
  if !ds.isEmpty ∧ left.all Sum.isSpace ∧ n ≤ Sum.greatest then
    .ok (if negative then Int.negOfNat n else n)
  else .error ("Illegal number: " ++ word)

/-- Whether something holds of what stands at a path. All rights are there but that to start a file
that is no program. -/
def ofPath (j : Job) (operator path : String) : Bool :=
  match j.find path with
  | .error _ => false
  | .ok (_, stored) =>
    if operator = "-e" ∨ operator = "-r" ∨ operator = "-w" ∨ operator = "-O" ∨ operator = "-G" then
      true
    else if operator = "-d" then stored == .folder
    else if operator = "-c" then stored == .device || stored == .nowhere
    else match stored with
      | .folder => operator = "-s" ∨ operator = "-x"
      | .file bytes _ =>
        operator = "-f" || (operator = "-s" && !bytes.isEmpty) || (operator = "-x" && stored.runs)
      | .program _ => operator = "-f" ∨ operator = "-s" ∨ operator = "-x"
      | .device | .nowhere => false

def unary (j : Job) (operator word : String) : Except String Bool :=
  if operator = "-z" then .ok (word = "")
  else if operator = "-n" then .ok (word ≠ "")
  else if operator = "-t" then (number word).map fun _ => false
  else .ok (ofPath j operator word)

def binary (j : Job) (operator first second : String) : Except String Bool :=
  if operator = "=" then .ok (first = second)
  else if operator = "!=" then .ok (first ≠ second)
  else if operator = "<" then .ok (first < second)
  else if operator = ">" then .ok (second < first)
  else if operator = "-nt" ∨ operator = "-ot" then .ok false
  else if operator = "-ef" then
    .ok (match j.find first, j.find second with
      | .ok (a, _), .ok (b, _) => a == b
      | _, _ => false)
  else do
    let m ← number first
    let n ← number second
    return if operator = "-eq" then m = n
      else if operator = "-ne" then m ≠ n
      else if operator = "-ge" then n ≤ m
      else if operator = "-gt" then n < m
      else if operator = "-le" then m ≤ n
      else m < n

def lift {α : Type} (e : Except String α) : Check α := fun words => e.map (·, words)

def step : Check Unit := modify List.tail

mutual

def either (j : Job) : (fuel : Nat) → (operator : Option String) → Check Bool
  | 0, _ => return false
  | fuel + 1, operator => do
    let first ← both j fuel operator
    let words ← get
    if operator? words.tail = some "-o" then
      set (words.drop 2)
      let rest ← either j fuel (operator? (words.drop 2))
      return first || rest
    return first

def both (j : Job) : (fuel : Nat) → (operator : Option String) → Check Bool
  | 0, _ => return false
  | fuel + 1, operator => do
    let first ← opposite j fuel operator
    let words ← get
    if operator? words.tail = some "-a" then
      set (words.drop 2)
      let rest ← both j fuel (operator? (words.drop 2))
      return first && rest
    return first

def opposite (j : Job) : (fuel : Nat) → (operator : Option String) → Check Bool
  | 0, _ => return false
  | fuel + 1, operator => do
    if operator ≠ some "!" then return ← primary j fuel operator
    let words ← get
    if words.tail.isEmpty then return true
    step
    return !(← opposite j fuel (operator? words.tail))

def primary (j : Job) : (fuel : Nat) → (operator : Option String) → Check Bool
  | 0, _ => return false
  | fuel + 1, operator => do
    let words ← get
    match words with
    | [] => return false
    | word :: rest =>
      if operator = some "(" then
        step
        if operator? rest = some ")" then return false
        let inner ← either j fuel (operator? rest)
        step
        if operator? (← get) ≠ some ")" then throw "closing paren expected"
        return inner
      else match operator with
        | some operator =>
          if kind? operator = some Kind.unary then
            step
            match rest with
            | [] => throw (operator ++ ": argument expected")
            | word :: _ => return ← lift (unary j operator word)
        | none => pure ()
      match operator? rest with
      | some next =>
        if kind? next = some Kind.binary then
          match rest.tail with
          | [] => throw (next ++ ": argument expected")
          | second :: _ =>
            set rest.tail
            return ← lift (binary j next word second)
        return word ≠ ""
      | none => return word ≠ ""

end

/-- Whether what the words say holds, or what is wrong with them. -/
def holds (j : Job) : (fuel : Nat) → List String → Except String Bool
  | 0, _ | _ + 1, [] => .ok false
  | fuel + 1, words => do
    let (turned, words, start) := match words with
      | [_, middle, _] =>
        if kind? middle = some Kind.binary then (false, words, none) else reduced words
      | [_, _, _, _] => reduced words
      | _ => (false, words, operator? words)
    if turned then
      let inner ← holds j fuel words
      return !inner
    let (found, left) ← (either j (8 * words.length + 8) start).run words
    match left with
    | word :: _ :: _ => .error (if word = "" then "unexpected operator"
        else word ++ ": unexpected operator")
    | _ => .ok found
where
  /-- Three or four words in parentheses, or turned round. -/
  reduced (words : List String) : Bool × List String × Option String :=
    if words.head? = some "(" ∧ words.getLast? = some ")" then
      (false, words.tail.dropLast, operator? words.tail.dropLast)
    else if words.head? = some "!" then (true, words.tail, none)
    else (false, words, operator? words)

/-- The words between brackets, or what is wrong with them. -/
def bracketed (words : List String) : Except String (List String) :=
  if words.getLast? = some "]" then .ok words.dropLast else .error "missing ]"

end ModemBench.Condition
