import ModemBench.Bench.Script.Token
/-!
Shell scripts, read one complete command after another: a script that is at fault somewhere runs up
to there.
-/

namespace ModemBench.Script

open Reader

/-- Commands that are looked for before functions; no function may be called like one of them. -/
def specialNames : List String := [
  ".", ":", "break", "continue", "eval", "exec", "exit", "export", "readonly", "return", "set",
  "shift", "times", "trap", "unset"]

def bare (w : Word) : List Char := (w.bare?).getD []

/-- The characters of a word, quoted or not. -/
def letters (w : Word) : List Char := w.flatMap fun piece =>
  match piece with
  | .text _ cs => cs
  | .param .. | .output .. | .sum .. => []

def flow (sign : String) : Flow :=
  if sign = ">" then .write
  else if sign = ">>" then .append
  else if sign = ">|" then .clobber
  else if sign = "<>" then .readWrite
  else if sign = "<" then .read
  else .copy

/-- The target of a redirection. A text in the script is only announced here. -/
def target (inner : Word.Inner) (fuel : Nat) (channel : Option Nat) (sign : String) :
    Reader Redirect := do
  let usual := channel.getD (if sign.startsWith ">" then 1 else 0)
  if sign = "<<" ∨ sign = "<<-" then
    match ← fresh inner true fuel with
    | .word w =>
      let s ← get
      let a : Awaited := ⟨s.announced, letters w, w.any Piece.isQuoted, sign == "<<-"⟩
      set { s with announced := s.announced + 1, awaited := s.awaited ++ [a] }
      return .document usual a.number
    | other => unexpected other none
  else
    match ← next inner {} fuel with
    | .word w => return .file usual (flow sign) w
    | other => unexpected other none

/-- Redirections behind a command. -/
def redirects (inner : Word.Inner) : (fuel : Nat) → Wants → Reader (List Redirect)
  | 0, _ => return []
  | fuel + 1, wants => do
    match ← next inner wants (fuel + 1) with
    | .redirect channel sign =>
      let r ← target inner (fuel + 1) channel sign
      return r :: (← redirects inner fuel {})
    | other =>
      pushBack other
      return []

def expect (inner : Word.Inner) (fuel : Nat) (wanted : Token) : Reader Unit := do
  let found ← next inner {} fuel
  unless found.name = wanted.name do unexpected found (some wanted)

/-- Words up to one that is none. -/
def wordsHere (inner : Word.Inner) : (fuel : Nat) → Reader (List Word × Token)
  | 0 => return ([], .ending)
  | fuel + 1 => do
    match ← next inner {} (fuel + 1) with
    | .word w =>
      let (words, last) ← wordsHere inner fuel
      return (w :: words, last)
    | other => return ([], other)

/-- The patterns of a case, up to the parenthesis that closes them. -/
def patterns (inner : Word.Inner) : (fuel : Nat) → Token → Reader (List Word)
  | 0, _ => return []
  | fuel + 1, token => do
    let first := match token with
      | .word w => w
      | .keyword text => [.text false text.toList]
      | _ => []
    match ← next inner {} (fuel + 1) with
    | .sign "|" => return first :: (← patterns inner fuel (← next inner {} (fuel + 1)))
    | .sign ")" => return [first]
    | other => unexpected other (some (.sign ")"))

def allWants : Wants := ⟨true, true, true⟩

mutual

/-- Commands one after another. Where `top`, a line is all of it; elsewhere it ends where no
command starts, but not before the first unless it is `optional`. -/
def list : (fuel : Nat) → (top optional : Bool) → Option Command → Reader (Option Command)
  | 0, _, _, before => return before
  | fuel + 1, top, optional, before => do
    let inner := within fuel
    let token ← next inner { allWants with lines := !top } fuel
    match token with
    | .newline =>
      documents inner fuel (← get).awaited
      return some (before.getD .nothing)
    | .ending =>
      documents inner fuel (← get).awaited
      pushBack .ending
      return before
    | _ =>
      pushBack token
      if !top ∧ optional ∧ token.closes then return before
      let c ← linked fuel none
      let after ← next inner {} fuel
      let c := match after with
        | .sign "&" => .background c
        | _ => c
      let all := match before with
        | none => c
        | some before => .sequence before c
      match after with
      | .ending =>
        documents inner fuel (← get).awaited
        pushBack .ending
        return some all
      | .newline =>
        pushBack .newline
        list fuel top true (some all)
      | .sign "&" | .sign ";" => list fuel top true (some all)
      | _ =>
        if top then unexpected after none
        pushBack after
        return some all

/-- Commands that depend on the one before. -/
def linked : (fuel : Nat) → Option (Bool × Command) → Reader Command
  | 0, _ => return .nothing
  | fuel + 1, before => do
    let c ← pipeline fuel
    let all := match before with
      | none => c
      | some (well, before) => .linked well before c
    match ← next (within fuel) {} fuel with
    | .sign "&&" =>
      pushBack (← next (within fuel) allWants fuel)
      linked fuel (some (true, all))
    | .sign "||" =>
      pushBack (← next (within fuel) allWants fuel)
      linked fuel (some (false, all))
    | other =>
      pushBack other
      return all

def pipeline : (fuel : Nat) → Reader Command
  | 0 => return .nothing
  | fuel + 1 => do
    let inner := within fuel
    let token ← next inner {} fuel
    let turned := match token with
      | .keyword "!" => true
      | _ => false
    pushBack (← if turned then next inner { keywords := true, aliases := true } fuel
      else pure token)
    let parts ← piped fuel
    let all := match parts with
      | [c] => c
      | _ => .pipeline parts
    return if turned then .opposite all else all

/-- Commands that hand what they print to the next one. -/
def piped : (fuel : Nat) → Reader (List Command)
  | 0 => return []
  | fuel + 1 => do
    let c ← command fuel
    match ← next (within fuel) {} fuel with
    | .sign "|" =>
      pushBack (← next (within fuel) allWants fuel)
      return c :: (← piped fuel)
    | other =>
      pushBack other
      return [c]

/-- One command, with what is sent elsewhere. -/
def command : (fuel : Nat) → Reader Command
  | 0 => return .nothing
  | fuel + 1 => do
    let inner := within fuel
    let line := (← get).line
    let token ← next inner {} fuel
    let body : Reader Command := do return (← list fuel false false none).getD .nothing
    let behind (c : Command) : Reader Command := do
      match ← redirects inner fuel { keywords := true, aliases := true } with
      | [] => return c
      | found => return .redirected line c found
    match token with
    | .keyword "if" => behind (← branch fuel)
    | .keyword "while" | .keyword "until" =>
      let condition ← body
      expect inner fuel (.keyword "do")
      let again ← body
      expect inner fuel (.keyword "done")
      behind (.loop (token.name == "\"while\"") condition again)
    | .keyword "for" =>
      let name ← match ← next inner {} fuel with
        | .word w => if isName (bare w) then pure (String.ofList (bare w)) else fail .loopVariable
        | _ => fail .loopVariable
      let words ← match ← next inner allWants fuel with
        | .keyword "in" => do
          let (words, last) ← wordsHere inner fuel
          match last with
          | .newline | .sign ";" => pure words
          | _ => unexpected last none
        | other => do
          match other with
          | .sign ";" => pure ()
          | _ => pushBack other
          pure [[.param "@" .plain true]]
      pushBack (← next inner allWants fuel)
      expect inner fuel (.keyword "do")
      let again ← body
      expect inner fuel (.keyword "done")
      behind (.each line name words again)
    | .keyword "case" =>
      let word ← match ← next inner {} fuel with
        | .word w => pure w
        | other => unexpected other (some (.word []))
      pushBack (← next inner allWants fuel)
      expect inner fuel (.keyword "in")
      behind (.choice line word (← cases fuel))
    | .sign "(" =>
      let c ← body
      expect inner fuel (.sign ")")
      return .apart line c (← redirects inner fuel { keywords := true, aliases := true })
    | .keyword "\x7b" =>
      let c ← body
      expect inner fuel (.keyword "\x7d")
      behind c
    | .word _ | .redirect _ _ =>
      pushBack token
      simple fuel line [] [] []
    | _ => unexpected token none

/-- What follows `if` or `elif`, up to the end of all of it. -/
def branch : (fuel : Nat) → Reader Command
  | 0 => return .nothing
  | fuel + 1 => do
    let inner := within fuel
    let condition ← list fuel false false none
    expect inner fuel (.keyword "then")
    let body ← list fuel false false none
    let otherwise ← match ← next inner {} fuel with
      | .keyword "elif" => branch fuel
      | .keyword "else" => do
        let c ← list fuel false false none
        expect inner fuel (.keyword "fi")
        pure (c.getD .nothing)
      | .keyword "fi" => pure .nothing
      | other => unexpected other (some (.keyword "fi"))
    return .branch (condition.getD .nothing) (body.getD .nothing) otherwise

/-- The cases of a choice, up to the end of all of them. -/
def cases : (fuel : Nat) → Reader (List (List Word × Command))
  | 0 => return []
  | fuel + 1 => do
    let inner := within fuel
    let wants : Wants := { lines := true, keywords := true }
    let start ← next inner wants fuel
    match start with
    | .keyword "esac" => return []
    | _ =>
      let first ← match start with
        | .sign "(" => next inner {} fuel
        | _ => pure start
      let found ← patterns inner fuel first
      let body ← list fuel false true none
      let c := (found, body.getD .nothing)
      match ← next inner wants fuel with
      | .keyword "esac" => return [c]
      | .sign ";;" => return c :: (← cases fuel)
      | other => unexpected other (some (.sign ";;"))

/-- The rest of a simple command. Settings stand before its words, and aliases too. -/
def simple : (fuel : Nat) → Nat → List (String × Word) → List Word → List Redirect →
    Reader Command
  | 0, _, _, _, _ => return .nothing
  | fuel + 1, line, settings, words, found => do
    let inner := within fuel
    match ← next inner { aliases := words.isEmpty } fuel with
    | .word w =>
      match if words.isEmpty then w.setting? else none with
      | some setting => simple fuel line (settings ++ [setting]) words found
      | none => simple fuel line settings (words ++ [w]) found
    | .redirect channel sign =>
      simple fuel line settings words (found ++ [← target inner fuel channel sign])
    | .sign "(" =>
      match words, settings, found with
      | [w], [], [] =>
        expect inner fuel (.sign ")")
        let name := bare w
        if !isName name ∨ specialNames.contains (String.ofList name) then fail .functionName
        pushBack (← next inner allWants fuel)
        return .define (String.ofList name) (← command fuel)
      | _, _, _ =>
        pushBack (.sign "(")
        return .simple line settings words found
    | other =>
      pushBack other
      return .simple line settings words found

/-- How scripts inside words are read. -/
def within : (fuel : Nat) → Word.Inner
  | 0 => ⟨return .nothing, return .nothing⟩
  | fuel + 1 =>
    let whole : Reader Command := do return (← list fuel false true none).getD .nothing
    ⟨do
      let c ← whole
      expect (within fuel) fuel (.sign ")")
      return c, whole⟩

end

/-- The next complete command, or nothing at the end of a script. -/
def read (s : Source) : Except Flaw (Option Command × Source) :=
  (list (4 * s.ahead.length + 64) true false none).run { s with pushed := none, awaited := [] }

end ModemBench.Script
