import ModemBench.Bench.Script.Syntax
import ModemBench.Text.Hexadecimal
/-!
Sums in shell scripts: expressions on whole numbers of 64 bits, with variables that may be set on
the way. Parts whose value does not count are read, but neither evaluated nor able to fail.
-/

namespace ModemBench.Sum

inductive Token where
  | number (n : Int64)
  | name (s : String)
  | sign (s : String)
deriving Repr, DecidableEq

inductive SumError where
  | primaryExpected
  | endExpected
  | parenthesisExpected
  | colonExpected
  | division
  | badNumber (text : String)
deriving Repr, DecidableEq

def SumError.message (expression : String) : SumError → String
  | badNumber text => "Illegal number: " ++ text
  | primaryExpected => wrapped "expecting primary"
  | endExpected => wrapped "expecting EOF"
  | parenthesisExpected => wrapped "expecting ')'"
  | colonExpected => wrapped "expecting ':'"
  | division => wrapped "division by zero"
where
  wrapped (text : String) : String :=
    "arithmetic expression: " ++ text ++ ": \"" ++ expression ++ "\""

/-- Digits of a base, and what follows them. -/
def digits (base : Nat) (cs : List Char) : List Nat × List Char :=
  let fit (c : Char) : Option Nat := (Text.hexDigit? c).filter (· < base)
  let found := cs.takeWhile fun c => (fit c).isSome
  (found.filterMap fit, cs.drop found.length)

/-- A whole number as it is written in programs, and what follows it: after `0x` in base 16, after
another zero in base 8. -/
def natural (cs : List Char) : Nat × List Char :=
  let value (base : Nat) (ds : List Nat) := ds.foldl (fun n d => n * base + d) 0
  match cs with
  | '0' :: x :: rest =>
    if (x = 'x' ∨ x = 'X') ∧ (digits 16 rest).1 ≠ [] then
      let (ds, left) := digits 16 rest
      (value 16 ds, left)
    else
      let (ds, left) := digits 8 cs
      (value 8 ds, left)
  | _ =>
    let (ds, left) := digits 10 cs
    (value 10 ds, left)

def greatest : Nat := 9223372036854775807

def isSpace (c : Char) : Bool := c == ' ' || ('\t' ≤ c && c ≤ '\r')

/-- A number with a sign and blanks around it. An empty text stands for zero. -/
def integer? (text : String) : Option Int64 :=
  let (negative, cs) := match text.toList.dropWhile isSpace with
    | '-' :: rest => (true, rest)
    | '+' :: rest => (false, rest)
    | cs => (false, cs)
  let (n, left) := natural cs
  let found := (cs.head?.any Char.isDigit)
  if found ∧ (left.dropWhile isSpace).isEmpty ∧ n ≤ (if negative then greatest + 1 else greatest)
  then some (if negative then -Int64.ofNat n else Int64.ofNat n)
  else if text.toList.all isSpace then some 0
  else none

/-- Signs, longer ones first. -/
def signs : List String := [
  "<<=", ">>=", "<<", ">>", "<=", ">=", "==", "!=", "&&", "||", "*=", "/=", "%=", "+=", "-=", "&=",
  "^=", "|=", "=", "<", ">", "*", "/", "%", "+", "-", "!", "~", "&", "|", "^", "?", ":", "(", ")"]

/-- The tokens of an expression. What is no token ends it as a sign of its own. -/
def tokens : (fuel : Nat) → List Char → List Token
  | 0, _ | _ + 1, [] => []
  | fuel + 1, c :: rest =>
    if isSpace c then tokens fuel rest
    else if c.isDigit then
      let (n, left) := natural (c :: rest)
      .number (.ofNat (min n greatest)) :: tokens fuel left
    else if Script.isNameStart c then
      let name := (c :: rest).takeWhile Script.isNamePart
      .name (String.ofList name) :: tokens fuel ((c :: rest).drop name.length)
    else match signs.find? fun s => s.toList.isPrefixOf (c :: rest) with
      | some s => .sign s :: tokens fuel ((c :: rest).drop s.length)
      | none => [.sign (String.ofList [c])]

/-- An expression while it is evaluated. -/
structure Calculation where
  ahead : List Token
  value : String → Option String
  /-- What variables have been set to, the last first. -/
  set : List (String × Int64) := []

abbrev Calc := StateT Calculation (Except SumError)

def peek : Calc (Option Token) := return (← get).ahead.head?

def advance : Calc Unit := modify fun c => { c with ahead := c.ahead.tail }

def variableValue (name : String) : Calc Int64 := do
  let c ← get
  match c.set.lookup name with
  | some n => return n
  | none =>
    let text := (c.value name).getD ""
    match integer? text with
    | some n => return n
    | none => throw (.badNumber text)

def truth (b : Bool) : Int64 := if b then 1 else 0

/-- How tightly operators bind, the tightest first. -/
def level? (s : String) : Option Nat :=
  [["*", "/", "%"], ["+", "-"], ["<<", ">>"], ["<", "<=", ">", ">="], ["==", "!="], ["&"], ["^"],
    ["|"]].findIdx? (·.contains s)

def operate (s : String) (a b : Int64) : Except SumError Int64 :=
  if s = "*" then .ok (a * b)
  else if s = "/" then if b = 0 then .error .division else .ok (a / b)
  else if s = "%" then if b = 0 then .error .division else .ok (a % b)
  else if s = "+" then .ok (a + b)
  else if s = "-" then .ok (a - b)
  else if s = "<<" then .ok (a <<< b)
  else if s = ">>" then .ok (a >>> b)
  else if s = "<" then .ok (truth (a < b))
  else if s = "<=" then .ok (truth (a ≤ b))
  else if s = ">" then .ok (truth (b < a))
  else if s = ">=" then .ok (truth (b ≤ a))
  else if s = "==" then .ok (truth (a = b))
  else if s = "!=" then .ok (truth (a ≠ b))
  else if s = "&" then .ok (a &&& b)
  else if s = "^" then .ok (a ^^^ b)
  else .ok (a ||| b)

/-- The operator of a sign that sets a variable; nothing where it is set as it is. -/
def assigns? (s : String) : Option (Option String) :=
  if s = "=" then some none
  else if ["*=", "/=", "%=", "+=", "-=", "<<=", ">>=", "&=", "^=", "|="].contains s then
    some (some (String.ofList (s.toList.dropLast)))
  else none

mutual

/-- Sets a variable, or is a choice. -/
def assignment : (fuel : Nat) → (idle : Bool) → Calc Int64
  | 0, _ => throw .primaryExpected
  | fuel + 1, idle => do
    match (← get).ahead with
    | .name name :: .sign s :: rest =>
      match assigns? s with
      | none => choice fuel idle
      | some operator =>
        modify fun c => { c with ahead := rest }
        let right ← assignment fuel idle
        if idle then return right
        let result ← match operator with
          | none => pure right
          | some s => do
            let left ← variableValue name
            match operate s left right with
            | .ok n => pure n
            | .error e => throw e
        modify fun c => { c with set := (name, result) :: c.set }
        return result
    | _ => choice fuel idle

def choice : (fuel : Nat) → (idle : Bool) → Calc Int64
  | 0, _ => throw .primaryExpected
  | fuel + 1, idle => do
    let a ← either fuel idle
    match ← peek with
    | some (.sign "?") =>
      advance
      let b ← assignment fuel (idle || a == 0)
      match ← peek with
      | some (.sign ":") =>
        advance
        let c ← choice fuel (idle || a != 0)
        return if a != 0 then b else c
      | _ => throw .colonExpected
    | _ => return a

def either : (fuel : Nat) → (idle : Bool) → Calc Int64
  | 0, _ => throw .primaryExpected
  | fuel + 1, idle => do
    let a ← both fuel idle
    match ← peek with
    | some (.sign "||") =>
      advance
      let b ← either fuel (idle || a != 0)
      return truth (a != 0 || b != 0)
    | _ => return a

def both : (fuel : Nat) → (idle : Bool) → Calc Int64
  | 0, _ => throw .primaryExpected
  | fuel + 1, idle => do
    let first ← primary fuel idle
    let a ← operators fuel idle 8 first
    match ← peek with
    | some (.sign "&&") =>
      advance
      let b ← both fuel (idle || a == 0)
      return truth (a != 0 && b != 0)
    | _ => return a

/-- Operators that bind more tightly than a level, on what stands before them. -/
def operators : (fuel : Nat) → (idle : Bool) → (loosest : Nat) → Int64 → Calc Int64
  | 0, _, _, _ => throw .primaryExpected
  | fuel + 1, idle, loosest, a => do
    match ← peek with
    | some (.sign s) =>
      match level? s with
      | none => return a
      | some level =>
        if loosest ≤ level then return a
        advance
        let b ← primary fuel idle
        let b ← operators fuel idle level b
        if idle then operators fuel idle loosest b
        else match operate s a b with
          | .ok n => operators fuel idle loosest n
          | .error e => throw e
    | _ => return a

def primary : (fuel : Nat) → (idle : Bool) → Calc Int64
  | 0, _ => throw .primaryExpected
  | fuel + 1, idle => do
    match ← peek with
    | some (.number n) =>
      advance
      return n
    | some (.name name) =>
      advance
      if idle then return 0 else variableValue name
    | some (.sign s) =>
      advance
      if s = "(" then
        let n ← assignment fuel idle
        if (← peek) ≠ some (.sign ")") then throw .parenthesisExpected
        advance
        return n
      else if s = "+" then primary fuel idle
      else if s = "-" then return -(← primary fuel idle)
      else if s = "!" then return truth ((← primary fuel idle) == 0)
      else if s = "~" then return ~~~(← primary fuel idle)
      else throw .primaryExpected
    | none => throw .primaryExpected

end

/-- The value of an expression, and what variables are set to on the way, the last first. -/
def evaluate (value : String → Option String) (expression : String) :
    Except SumError (Int64 × List (String × Int64)) := do
  let cs := expression.toList
  let start : Calculation := { ahead := tokens (cs.length + 1) cs, value }
  let (n, after) ← (assignment (8 * cs.length + 8) false).run start
  if after.ahead.isEmpty then return (n, after.set) else throw .endExpected

end ModemBench.Sum
