import ModemBench.Bench.Script.Word
/-!
Tokens of shell scripts, and the texts that are announced by one of them and begin behind the end
of its line.
-/

namespace ModemBench.Script

/-- Words that mean something where a command may start. -/
def keywords : List String := [
  "!", "case", "do", "done", "elif", "else", "esac", "fi", "for", "if", "in", "then", "until",
  "while", "\x7b", "\x7d"]

namespace Token

/-- What a token is called where it is out of place. -/
def name : Token → String
  | word _ => "word"
  | keyword text | sign text => "\"" ++ text ++ "\""
  | redirect _ _ => "redirection"
  | newline => "newline"
  | ending => "end of file"

/-- Ends a list of commands. -/
def closes : Token → Bool
  | ending => true
  | keyword text => ["do", "done", "elif", "else", "esac", "fi", "then", "\x7d"].contains text
  | sign text => text == ")" || text == ";;"
  | word _ | redirect _ _ | newline => false

end Token

open Reader

/-- What a reader of tokens looks for besides. -/
structure Wants where
  /-- Ends of lines are passed over. -/
  lines : Bool := false
  keywords : Bool := false
  aliases : Bool := false

/-- The rest of a sign of redirection. -/
def redirection (c : Char) : Reader String := do
  if c = '>' then
    if ← accept '>' then return ">>"
    else if ← accept '|' then return ">|"
    else if ← accept '&' then return ">&"
    else return ">"
  else if ← accept '<' then return if ← accept '-' then "<<-" else "<<"
  else if ← accept '&' then return "<&"
  else if ← accept '>' then return "<>"
  else return "<"

/-- A sign that may be doubled. -/
def doubled (c : Char) : Reader Token := do
  if ← accept c then return .sign (String.ofList [c, c])
  else return .sign (String.ofList [c])

/-- The next token. -/
def fresh (inner : Word.Inner) (mark : Bool) : (fuel : Nat) → Reader Token
  | 0 => return .ending
  | fuel + 1 => do
    match ← peek with
    | none => return .ending
    | some c =>
      let s ← get
      skip
      if c = ' ' ∨ c = '\t' then fresh inner mark fuel
      else if c = '#' then
        modify fun s => { s with ahead := s.ahead.dropWhile (· != '\n') }
        fresh inner mark fuel
      else if c = '\n' then return .newline
      else if c = '&' ∨ c = '|' ∨ c = ';' then doubled c
      else if c = '(' ∨ c = ')' then return .sign (String.ofList [c])
      else if c = '<' ∨ c = '>' then return .redirect none (← redirection c)
      else
        let next ← peek
        if c.isDigit ∧ (next = some '<' ∨ next = some '>') then
          skip
          return .redirect (some (c.toNat - '0'.toNat)) (← redirection (next.getD '<'))
        set s
        return .word (← Word.read inner fuel mark)

/-- The lines up to an end mark, as they are. -/
def linesUntil (a : Awaited) : (fuel : Nat) → Reader (List Char)
  | 0 => return []
  | fuel + 1 => do
    let s ← get
    let line := s.ahead.takeWhile (· != '\n')
    let left := s.ahead.drop line.length
    let text := if a.stripped then line.dropWhile (· == '\t') else line
    if s.ahead.isEmpty ∧ text ≠ a.mark then return []
    set { s with ahead := left.drop 1, line := s.line + 1 }
    if text = a.mark then return []
    return text ++ left.take 1 ++ (← linesUntil a fuel)

/-- Reads the texts that are announced, now that their line is over. -/
def documents (inner : Word.Inner) (fuel : Nat) : List Awaited → Reader Unit
  | [] => modify fun s => { s with awaited := [] }
  | a :: rest => do
    let word ← if a.plain then pure [.text true (← linesUntil a fuel)]
      else Word.document inner fuel a.mark a.stripped
    modify fun s => { s with documents := (a.number, word) :: s.documents }
    documents inner fuel rest

/-- What an alias stands for, unless it stands in that itself. -/
def alias? (s : Source) (name : String) : Option String :=
  if s.running.any fun (other, behind) => other = name && behind < s.ahead.length then none
  else s.aliases.lookup name

/-- The next token, or the one that was put back. -/
def next (inner : Word.Inner) (wants : Wants) : (fuel : Nat) → Reader Token
  | 0 => return .ending
  | fuel + 1 => do
    let s ← get
    let token ← match s.pushed with
      | some token =>
        set { s with pushed := none }
        pure token
      | none => fresh inner false (fuel + 1)
    match token with
    | .newline =>
      if !wants.lines then return token
      documents inner (fuel + 1) (← get).awaited
      next inner wants fuel
    | .word w =>
      match w.bare?.map String.ofList with
      | none => return token
      | some text =>
        if wants.keywords ∧ keywords.contains text then return .keyword text
        let s ← get
        match if wants.aliases then alias? s text else none with
        | none => return token
        | some value =>
          let running := (text, s.ahead.length) :: s.running
          set { s with ahead := value.toList ++ s.ahead, running }
          next inner wants fuel
    | _ => return token

def pushBack (token : Token) : Reader Unit := modify fun s => { s with pushed := some token }

def unexpected {α : Type} (found : Token) (wanted : Option Token) : Reader α :=
  fail (.unexpected found.name (wanted.map Token.name))

end ModemBench.Script
