import ModemBench.Bench.Expression
import ModemBench.Bench.Utility.Input
/-!
A program that reckons with its words: whole numbers, comparisons, choices and parts of texts.
-/

namespace ModemBench.Utility.Reckoning

inductive Flaw where
  | missing (behind : String)
  | unexpected (word : String)
  | noNumber
  | division

def Flaw.message : Flaw → String
  | missing "" => "syntax error: missing argument"
  | missing word => "syntax error: missing argument after " ++ quoted word
  | unexpected word => "syntax error: unexpected argument " ++ quoted word
  | noNumber => "non-integer argument"
  | division => "division by zero"

abbrev Calc := StateT (List String) (Except Flaw)

def number (text : String) : Except Flaw Int :=
  match text.toInt? with
  | some n => if text.startsWith "+" then .error .noNumber else .ok n
  | none => .error .noNumber

/-- Whether a value counts as nothing. -/
def isNull (text : String) : Bool := text = "" || text.toInt? == some 0

def truth (b : Bool) : String := if b then "1" else "0"

/-- What an expression fits at the front of a text: its first part, or how much that is. -/
def fitted (text expression : String) : String :=
  match Expression.read? false false expression with
  | none => "0"
  | some e =>
    let marked := e.any fun row => row.any fun n => match n with
      | .group _ _ => true
      | _ => false
    match Expression.longest? e { before := 0, behind := text.toList } with
    | none => if marked then "" else "0"
    | some f =>
      if marked then String.ofList ((f.parts.lookup 1).getD []) else toString f.before

/-- How tightly an operator binds, the loosest first. -/
def levels : List (List String) := [
  ["|"], ["&"], ["<", "<=", "=", "==", "!=", ">=", ">"], ["+", "-"], ["*", "/", "%"], [":"]]

def operate (operator a b : String) : Except Flaw String := do
  if operator = "|" then return if isNull a then (if isNull b then "0" else b) else a
  else if operator = "&" then return if isNull a ∨ isNull b then "0" else a
  else if operator = ":" then return fitted a b
  else if levels[2]?.any (·.contains operator) then
    let order := match a.toInt?, b.toInt? with
      | some m, some n => compare m n
      | _, _ => compare a b
    return truth (if operator = "<" then order = .lt
      else if operator = "<=" then order ≠ .gt
      else if operator = ">" then order = .gt
      else if operator = ">=" then order ≠ .lt
      else if operator = "!=" then order ≠ .eq
      else order = .eq)
  else
    let m ← number a
    let n ← number b
    if (operator = "/" ∨ operator = "%") ∧ n = 0 then throw .division
    return toString (if operator = "+" then m + n
      else if operator = "-" then m - n
      else if operator = "*" then m * n
      else if operator = "/" then m.tdiv n
      else m.tmod n)

def take (behind : String) : Calc String := do
  match ← get with
  | [] => throw (.missing behind)
  | word :: rest =>
    set rest
    return word

mutual

/-- A value, or values with operators of a level between them. -/
def value : (fuel : Nat) → (operators : List (List String)) → (behind : String) → Calc String
  | 0, _, behind => throw (.missing behind)
  | fuel + 1, [], behind => primary fuel behind
  | fuel + 1, level :: tighter, behind => do
    let first ← value fuel tighter behind
    more fuel level tighter first

def more : (fuel : Nat) → (level : List String) → (tighter : List (List String)) → String →
    Calc String
  | 0, _, _, first => return first
  | fuel + 1, level, tighter, first => do
    match ← get with
    | operator :: rest =>
      if level.contains operator then
        set rest
        let second ← value fuel tighter operator
        let result ← StateT.lift (operate operator first second)
        more fuel level tighter result
      else return first
    | [] => return first

def primary : (fuel : Nat) → (behind : String) → Calc String
  | 0, behind => throw (.missing behind)
  | fuel + 1, behind => do
    let word ← take behind
    if word = "(" then
      let inner ← value fuel levels word
      let closing ← take inner
      if closing ≠ ")" then throw (.unexpected closing)
      return inner
    else if word = "+" then take word
    else if word = "length" then return toString (← primary fuel word).length
    else if word = "match" then
      let text ← primary fuel word
      return fitted text (← primary fuel text)
    else if word = "index" then
      let text := (← primary fuel word).toList
      let others := (← primary fuel word).toList
      return toString (((text.findIdx? others.contains).map (· + 1)).getD 0)
    else if word = "substr" then
      let text ← primary fuel word
      let start ← primary fuel text
      let length ← primary fuel start
      match start.toInt?, length.toInt? with
      | some m, some n =>
        if m ≤ 0 ∨ n ≤ 0 then return ""
        return String.ofList ((text.toList.drop (m.toNat - 1)).take n.toNat)
      | _, _ => return ""
    else return word

end

def expr (words : List String) : Work Nat := do
  let words := if words.head? = some "--" then words.tail else words
  if words.isEmpty then return ← misuse "expr" "missing operand" 2
  match (value (16 * words.length + 64) levels "").run words with
  | .error e =>
    Work.complain ("expr: " ++ e.message ++ "\n")
    return 2
  | .ok (_, word :: _) =>
    Work.complain ("expr: " ++ (Flaw.unexpected word).message ++ "\n")
    return 2
  | .ok (result, []) => output "expr" (result ++ "\n") (if isNull result then 1 else 0)

end ModemBench.Utility.Reckoning
