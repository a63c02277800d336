import ModemBench.Bench.Script.Source
/-!
Words of shell scripts. What a word is made of depends on the quotes and braces around it. A reader
of words is given the reader of what stands in parentheses or backquotes.
-/

namespace ModemBench.Script

namespace Word

open Reader

/-- What a part of a word stands in. -/
inductive Around where
  | nothing
  /-- The mark that ends a text in the script: nothing is put in for parts of it. -/
  | mark
  /-- Quotes, in which nothing is put in for parts if they are `plain`. -/
  | quotes (plain : Bool)
  /-- Behind a parameter in braces, in quotes or not. -/
  | braces (double : Bool)
  /-- Quotes within braces within quotes. -/
  | innerQuotes
  /-- A sum, with so many parentheses open in it. -/
  | sum (depth : Nat)
  /-- A text in the script. -/
  | document
deriving Repr, DecidableEq

namespace Around

/-- Whether what is put in for parts stays whole. -/
def double : Around → Bool
  | nothing | mark | braces false => false
  | quotes _ | braces true | innerQuotes | sum _ | document => true

/-- Whether a backslash takes the meaning of a character. Elsewhere it stands for itself. -/
def escapes (a : Around) (c : Char) : Bool :=
  if c = '\\' ∨ c = '\x60' ∨ c = '$' then true
  else if c = '"' then a ≠ document
  else if c = '\x7d' then a = braces true || a = innerQuotes
  else !a.double

/-- What is missing where a script ends too early, or a text in it. -/
def missing? (inText : Bool) : Around → Option Cause
  | nothing | mark | document => none
  | quotes _ => some .unterminatedQuote
  | innerQuotes | braces true => some (if inText then .missingBrace else .unterminatedQuote)
  | braces false => some .missingBrace
  | sum _ => some .missingParentheses

end Around

/-- Ends a bare word. -/
def isBreak (c : Char) : Bool := " \t\n;&|<>()".toList.contains c

/-- Texts beside each other are one text if they are quoted alike. -/
def merged (pieces : List Piece) : List Piece :=
  pieces.foldr (fun piece rest =>
    match piece, rest with
    | .text quoted cs, .text other ds :: more =>
      if quoted = other then .text quoted (cs ++ ds) :: more else piece :: rest
    | _, _ => piece :: rest) []

/-- How a parameter in braces is used, from the sign behind its name on, up to the word. -/
inductive Sign where
  | finished
  | use (make : Word → Use) (bare : Bool)

/-- The sign behind a name in braces. One that means nothing is passed over. -/
def sign : Reader Sign := do
  match ← peek with
  | some '\x7d' =>
    skip
    return .finished
  | some '%' =>
    skip
    let longest ← accept '%'
    return .use (.trim false longest) true
  | some '#' =>
    skip
    let longest ← accept '#'
    return .use (.trim true longest) true
  | some c =>
    let nullCounts := c == ':'
    if nullCounts then skip
    let next ← peek
    let make? : Option (Word → Use) := match next with
      | some '-' => some (.instead nullCounts)
      | some '+' => some (.alternative nullCounts)
      | some '?' => some (.demand nullCounts)
      | some '=' => some (.assign nullCounts)
      | _ => none
    match make? with
    | some make =>
      skip
      return .use make false
    | none =>
      skipWithin
      return .use (fun _ => .unknown) false
  | none => return .use (fun _ => .unknown) false

/-- The name of a parameter in braces, and whether its length is asked for. Nothing where there is
no name. -/
def braced (fuel : Nat) : Reader (Option (String × Bool)) := do
  match ← peek with
  | none | some '\x7d' => return none
  | some c =>
    if isNameStart c then return some (String.ofList (← takeWhile isNamePart fuel), false)
    else if c.isDigit then return some (String.ofList (← takeWhile Char.isDigit fuel), false)
    skipWithin
    if c = '#' then
      match ← peek with
      | some d =>
        if isNamePart d then
          let kind := if d.isDigit then Char.isDigit else isNamePart
          return some (String.ofList (← takeWhile kind fuel), true)
        let s ← get
        skip
        if d ≠ '\x7d' ∧ (← peek) = some '\x7d' then
          return if isSpecial d then some (String.ofList [d], true) else none
        set s
      | none => pure ()
    return if isSpecial c then some (String.ofList [c], false) else none

/-- What stands in backquotes, as a script of its own. -/
def backquoted (a : Around) : (fuel : Nat) → Reader (List Char)
  | 0 => fail .endInBackquotes
  | fuel + 1 => do
    match ← take with
    | none => fail .endInBackquotes
    | some '\x60' => return []
    | some '\\' =>
      match ← takeAny with
      | none => fail .endInBackquotes
      | some c =>
        let plain := c = '\\' ∨ c = '\x60' ∨ c = '$' ∨ (a.double ∧ c = '"')
        let rest ← backquoted a fuel
        return if plain then c :: rest else '\\' :: c :: rest
    | some c => return c :: (← backquoted a fuel)

/-- Reads a script that stands in another one. What is announced in it stands in it. -/
def within {α : Type} (inner : Reader α) : Reader α := do
  let s ← get
  set { s with awaited := [], pushed := none, mark := none, behind := none }
  let found ← inner
  modify fun t => { t with
    awaited := s.awaited, pushed := s.pushed, mark := s.mark, behind := s.behind }
  return found

/-- Reads another script, and goes on where this one was. -/
def elsewhere {α : Type} (script : List Char) (inner : Reader α) : Reader α := do
  let s ← get
  set { s with
    ahead := script, line := 1, awaited := [], pushed := none, running := [], mark := none,
    behind := none }
  let found ← inner
  modify fun t => { t with
    ahead := s.ahead, line := s.line, awaited := s.awaited, pushed := s.pushed,
    running := s.running, mark := s.mark, behind := s.behind }
  return found

/-- How scripts inside words are read: one in parentheses, and one that stands for itself. -/
structure Inner where
  parentheses : Reader Command
  whole : Reader Command

mutual

/-- The rest of what stands in quotes or braces or in nothing, in pieces. -/
def pieces (inner : Inner) : (fuel : Nat) → Around → Reader (List Piece)
  | 0, _ => return []
  | fuel + 1, a => do
    match ← peek with
    | none =>
      let s ← get
      match a.missing? (s.mark.isSome || s.behind.isSome) with
      | some cause => fail cause
      | none => return []
    | some c =>
      let bare := a == .nothing || a == .mark
      let plain := a == .mark || a == .quotes true
      if bare ∧ isBreak c then return []
      skip
      let single := a == .braces false || bare
      match a with
      | .quotes _ | .innerQuotes => if c = '"' then return []
      | .braces _ => if c = '\x7d' then return []
      | .sum 0 =>
        if c = ')' then
          if ← accept ')' then return []
      | _ => pure ()
      let depth := match a with
        | .sum depth =>
          if c = '(' then .sum (depth + 1) else if c = ')' then .sum (depth - 1) else a
        | _ => a
      let more (found : List Piece) : Reader (List Piece) := do
        return found ++ (← pieces inner fuel depth)
      if c = '\\' then
        match ← takeAny with
        | none => more [.text true ['\\']]
        | some e => more [.text true (if a.escapes e then [e] else ['\\', e])]
      else if c = '$' ∧ !plain then more [← dollar inner fuel a]
      else if c = '\x60' ∧ !plain then
        let script ← backquoted a (fuel + 1)
        more [.output (← elsewhere script inner.whole) a.double]
      else if c = '"' ∧ (single ∨ a = .braces true) then
        more (← quoted inner fuel (if single then .quotes plain else .innerQuotes))
      else if c = '\x27' ∧ single then
        more [.text true (← takeUntil '\x27' .unterminatedQuote (fuel + 1))]
      else
        if c = '\n' then checkEnd
        more [.text a.double [c]]

/-- The rest of what stands in quotes. Quotes make a field even where nothing is in them, except
around all arguments. -/
def quoted (inner : Inner) : (fuel : Nat) → Around → Reader (List Piece)
  | 0, _ => return []
  | fuel + 1, a => do
    match ← pieces inner fuel a with
    | [.param "@" .plain true] => return [.param "@" .plain true]
    | found => return .text true [] :: found

/-- What a dollar sign stands for. -/
def dollar (inner : Inner) : (fuel : Nat) → Around → Reader Piece
  | 0, a => return .text a.double ['$']
  | fuel + 1, a => do
    match ← peek with
    | some '(' =>
      skip
      if ← accept '(' then return .sum (merged (← pieces inner fuel (.sum 0))) a.double
      else return .output (← within inner.parentheses) a.double
    | some '\x7b' =>
      skip
      match ← braced (fuel + 1) with
      | none =>
        let _ ← pieces inner fuel (.braces a.double)
        return .param "" .unknown a.double
      | some (name, true) =>
        let _ ← pieces inner fuel (.braces a.double)
        return .param name .length a.double
      | some (name, false) =>
        match ← sign with
        | .finished => return .param name .plain a.double
        | .use make bare =>
          let word ← pieces inner fuel (.braces (a.double && !bare))
          return .param name (make (merged word)) a.double
    | some c =>
      if isNameStart c then
        return .param (String.ofList (← takeWhile isNamePart (fuel + 1))) .plain a.double
      else if isSpecial c then
        skip
        return .param (String.ofList [c]) .plain a.double
      else return .text a.double ['$']
    | none => return .text a.double ['$']

end

/-- The rest of a word; where it is the mark that ends a text, nothing is put in for parts. -/
def read (inner : Inner) (fuel : Nat) (mark : Bool) : Reader Word := do
  return merged (← pieces inner fuel (if mark then .mark else .nothing))

/-- A text in the script up to its end mark, with what is put in for parts of it. -/
def document (inner : Inner) (fuel : Nat) (mark : List Char) (stripped : Bool) : Reader Word := do
  modify fun s => { s with mark := some (mark, stripped), behind := none }
  checkEnd
  let found ← pieces inner fuel .document
  modify fun s => { s with ahead := s.behind.getD s.ahead, mark := none, behind := none }
  return merged found

end Word

end ModemBench.Script
