import ModemBench.Text.Hexadecimal
/-!
The small parts of TOML: blanks, comments, line ends, strings and keys. A reader takes the
characters ahead and gives what it read with the characters left, or nothing.
-/

namespace ModemBench.Toml

open ModemBench.Text (codePoint?)

def isBlank (c : Char) : Bool :=
  c == ' ' || c == '\t'

def skipBlanks (cs : List Char) : List Char :=
  cs.dropWhile isBlank

def newline? : List Char → Option (List Char)
  | '\n' :: rest => some rest
  | '\r' :: '\n' :: rest => some rest
  | _ => none

/-- What a string may hold as it stands, its own quotes and backslashes apart. -/
def isPlain (c : Char) : Bool :=
  c == '\t' || (0x20 ≤ c.toNat && c.toNat != 0x7F)

def skipComment (cs : List Char) : List Char :=
  match cs with
  | '#' :: rest => rest.dropWhile isPlain
  | _ => cs

/-- Nothing more on this line but blanks and a comment. -/
def endLine? (cs : List Char) : Option (List Char) :=
  match skipComment (skipBlanks cs) with
  | [] => some []
  | rest => newline? rest

/-- Blanks, line ends and comments between the values of a list. A comment ends with its line. -/
def skipLines (inComment : Bool) : List Char → List Char
  | [] => []
  | '\n' :: rest => skipLines false rest
  | '\r' :: '\n' :: rest => skipLines false rest
  | c :: rest =>
    if inComment then
      if isPlain c then skipLines true rest else c :: rest
    else if isBlank c then skipLines false rest
    else if c == '#' then skipLines true rest
    else c :: rest

/-- What stands after a backslash, and how many characters that is. -/
def escape? : List Char → Option (Char × Nat)
  | 'b' :: _ => some ('\x08', 1)
  | 'f' :: _ => some ('\x0c', 1)
  | 'n' :: _ => some ('\n', 1)
  | 'r' :: _ => some ('\r', 1)
  | 't' :: _ => some ('\t', 1)
  | '"' :: _ => some ('"', 1)
  | '\\' :: _ => some ('\\', 1)
  | 'u' :: rest => (codePoint? 4 rest).map (·, 5)
  | 'U' :: rest => (codePoint? 8 rest).map (·, 9)
  | _ => none

/-- The rest of a string between single double quotes. -/
def basic? (cs : List Char) : Option (List Char × List Char) :=
  match cs with
  | [] => none
  | '"' :: rest => some ([], rest)
  | '\\' :: rest =>
    match escape? rest with
    | some (c, n) => (basic? (rest.drop n)).map fun (text, left) => (c :: text, left)
    | none => none
  | c :: rest =>
    if isPlain c then (basic? rest).map fun (text, left) => (c :: text, left) else none
termination_by cs.length
decreasing_by all_goals (simp; try omega)

/-- The rest of a string between apostrophes, which has no escapes. -/
def literal? : List Char → Option (List Char × List Char)
  | [] => none
  | c :: rest =>
    if c == '\x27' then some ([], rest)
    else if isPlain c then (literal? rest).map fun (text, left) => (c :: text, left)
    else none

/-- A row of quotes inside a string of several lines. Fewer than three are text; three close the
string, with up to two more before them. -/
def closing? (quote : Char) (cs : List Char) : Option (List Char × List Char) :=
  let count := (cs.takeWhile (· == quote)).length
  if count < 3 then none
  else
    let kept := min (count - 3) 2
    some (List.replicate kept quote, cs.drop (kept + 3))

/-- After a backslash that ends its line, the text goes on at the next visible character. -/
def joinLine? (cs : List Char) : Option (List Char) :=
  (newline? (skipBlanks cs)).map skipSpace
where
  skipSpace : List Char → List Char
    | [] => []
    | '\r' :: '\n' :: rest => skipSpace rest
    | c :: rest => if isBlank c || c == '\n' then skipSpace rest else c :: rest

/-- The rest of a string of several lines. `fuel` bounds the characters read. -/
def lines? (quote : Char) : Nat → List Char → Option (List Char × List Char)
  | 0, _ => none
  | fuel + 1, cs =>
    match closing? quote cs with
    | some found => some found
    | none =>
      match cs with
      | [] => none
      | c :: rest =>
        let more := fun (read : List Char) (left : List Char) =>
          (lines? quote fuel left).map fun (text, left) => (read ++ text, left)
        if c == '\\' && quote == '"' then
          match joinLine? rest with
          | some left => more [] left
          | none =>
            match escape? rest with
            | some (e, n) => more [e] (rest.drop n)
            | none => none
        else match newline? cs with
          | some left => more ['\n'] left
          | none => if isPlain c then more [c] rest else none

/-- A line end right after the opening quotes is no part of the text. -/
def openLines? (quote : Char) (cs : List Char) : Option (List Char × List Char) :=
  let body := (newline? cs).getD cs
  lines? quote (body.length + 1) body

def string? : List Char → Option (String × List Char)
  | '"' :: '"' :: '"' :: rest => (openLines? '"' rest).map ofChars
  | '"' :: rest => (basic? rest).map ofChars
  | '\x27' :: '\x27' :: '\x27' :: rest => (openLines? '\x27' rest).map ofChars
  | '\x27' :: rest => (literal? rest).map ofChars
  | _ => none
where
  ofChars : List Char × List Char → String × List Char
    | (text, left) => (String.ofList text, left)

def isBare (c : Char) : Bool :=
  ('A' ≤ c && c ≤ 'Z') || ('a' ≤ c && c ≤ 'z') || ('0' ≤ c && c ≤ '9') || c == '_' || c == '-'

/-- One part of a key: a bare word, or a string on one line. -/
def keyPart? : List Char → Option (String × List Char)
  | '"' :: rest => (basic? rest).map fun (text, left) => (String.ofList text, left)
  | '\x27' :: rest => (literal? rest).map fun (text, left) => (String.ofList text, left)
  | cs =>
    let word := cs.takeWhile isBare
    if word.isEmpty then none else some (String.ofList word, cs.drop word.length)

/-- Keys and values may be nested this deep and no deeper. -/
def depthLimit : Nat := 79

/-- Parts of a key with dots between them, blanks around each; at most `fuel` parts. -/
def keyParts? : Nat → List Char → Option (List String × List Char)
  | 0, _ => none
  | fuel + 1, cs => do
    let (part, left) ← keyPart? (skipBlanks cs)
    match skipBlanks left with
    | '.' :: rest =>
      let (parts, left) ← keyParts? fuel rest
      some (part :: parts, left)
    | left => some ([part], left)

def key? (cs : List Char) : Option (List String × List Char) :=
  keyParts? depthLimit cs

end ModemBench.Toml
