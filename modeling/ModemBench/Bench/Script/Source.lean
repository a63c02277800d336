import ModemBench.Bench.Script.Syntax
/-!
The text of a script while it is read: what is ahead, the line it is on, and texts inside the
script that are announced in one line and stand behind it.
-/

namespace ModemBench.Script

inductive Token where
  | word (w : Word)
  | keyword (name : String)
  | sign (text : String)
  | redirect (channel : Option Nat) (sign : String)
  | newline
  | ending

/-- What is wrong with a script. -/
inductive Cause where
  | unexpected (found : String) (wanted : Option String)
  | unterminatedQuote
  | missingParentheses
  | missingBrace
  | endInBackquotes
  | functionName
  | loopVariable
deriving Repr, DecidableEq

def Cause.message : Cause → String
  | unexpected found none => found ++ " unexpected"
  | unexpected found (some wanted) => found ++ " unexpected (expecting " ++ wanted ++ ")"
  | unterminatedQuote => "Unterminated quoted string"
  | missingParentheses => "Missing '))'"
  | missingBrace => "Missing '\x7d'"
  | endInBackquotes => "EOF in backquote substitution"
  | functionName => "Bad function name"
  | loopVariable => "Bad for loop variable"

structure Flaw where
  line : Nat
  cause : Cause
deriving Repr, DecidableEq

/-- A text inside a script that has been announced. Lines before its end mark lose their tabs if it
is `stripped`, and nothing is put in for parts of it if it is `plain`. -/
structure Awaited where
  number : Nat
  mark : List Char
  plain : Bool
  stripped : Bool
deriving Repr, DecidableEq

structure Source where
  ahead : List Char
  line : Nat := 1
  /-- A token that was read and put back. -/
  pushed : Option Token := none
  aliases : List (String × String) := []
  /-- The texts that aliases stand for cannot use them again: their names, and how much is ahead
  behind them. -/
  running : List (String × Nat) := []
  awaited : List Awaited := []
  /-- The end mark of the text that is being read, and whether its lines lose their tabs. -/
  mark : Option (List Char × Bool) := none
  /-- What stands behind that text, once its end has been reached. -/
  behind : Option (List Char) := none
  documents : List (Nat × Word) := []
  /-- How many texts have been announced. -/
  announced : Nat := 0

abbrev Reader := StateT Source (Except Flaw)

namespace Reader

def fail {α : Type} (cause : Cause) : Reader α := fun s => .error ⟨s.line, cause⟩

/-- Joined lines are one line: a backslash at the end of a line is passed over. -/
def join : (fuel : Nat) → Source → Source
  | fuel + 1, s =>
    match s.ahead with
    | '\\' :: '\n' :: rest => join fuel { s with ahead := rest, line := s.line + 1 }
    | _ => s
  | 0, s => s

/-- The next character, which stays ahead. -/
def peek : Reader (Option Char) := do
  modify fun s => join s.ahead.length s
  return (← get).ahead.head?

/-- The next character as it stands, whatever it is. -/
def takeAny : Reader (Option Char) := do
  match (← get).ahead with
  | [] => return none
  | c :: rest =>
    modify fun s => { s with ahead := rest, line := if c = '\n' then s.line + 1 else s.line }
    return some c

def take : Reader (Option Char) := do
  let _ ← peek
  takeAny

def skip : Reader Unit := do
  let _ ← take

/-- Skips a character that does not count as the end of a line even if it is one. -/
def skipWithin : Reader Unit := do
  let _ ← peek
  modify fun s => { s with ahead := s.ahead.tail }

/-- Takes the next character if it is the one that is asked for. -/
def accept (c : Char) : Reader Bool := do
  if (← peek) = some c then
    skip
    return true
  return false

/-- The characters ahead that are of a kind. -/
def takeWhile (kind : Char → Bool) : (fuel : Nat) → Reader (List Char)
  | 0 => return []
  | fuel + 1 => do
    match ← peek with
    | some c =>
      if kind c then
        skip
        return c :: (← takeWhile kind fuel)
      return []
    | none => return []

/-- What is ahead up to a character, which is passed over. -/
def takeUntil (last : Char) (cause : Cause) : (fuel : Nat) → Reader (List Char)
  | 0 => fail cause
  | fuel + 1 => do
    match ← takeAny with
    | none => fail cause
    | some c => if c = last then return [] else return c :: (← takeUntil last cause fuel)

/-- At the start of a line, ends the text that is being read if the line is its end mark: then
nothing is ahead in it. -/
def checkEnd : Reader Unit := do
  let s ← get
  match s.mark with
  | none => return
  | some (mark, stripped) =>
    let cs := if stripped then s.ahead.dropWhile (· == '\t') else s.ahead
    let rest := cs.drop mark.length
    if mark.isPrefixOf cs ∧ (rest.isEmpty ∨ rest.head? = some '\n') then
      set { s with ahead := [], behind := some (rest.drop 1), mark := none, line := s.line + 1 }
    else set { s with ahead := cs }

end Reader

end ModemBench.Script
