/-!
Shell scripts as trees: words with what is to be put in for parts of them, and commands made of
words and of other commands.
-/

namespace ModemBench.Script

/-- What a redirection does with its target. -/
inductive Flow where
  | read
  | write
  | append
  | readWrite
  /-- Writes even where files are protected. -/
  | clobber
  /-- Makes a copy of another channel. -/
  | copy
deriving Repr, DecidableEq

mutual

/-- What is done with the value of a parameter. Where `nullCounts`, an empty value is as good as
none. -/
inductive Use where
  | plain
  | length
  | instead (nullCounts : Bool) (word : List Piece)
  | assign (nullCounts : Bool) (word : List Piece)
  | demand (nullCounts : Bool) (word : List Piece)
  | alternative (nullCounts : Bool) (word : List Piece)
  /-- Cuts off what a pattern fits, at the front or at the end. -/
  | trim (front longest : Bool) (pattern : List Piece)
  | unknown

inductive Piece where
  | text (quoted : Bool) (cs : List Char)
  | param (name : String) (use : Use) (quoted : Bool)
  /-- What a command prints. -/
  | output (c : Command) (quoted : Bool)
  | sum (expression : List Piece) (quoted : Bool)

inductive Redirect where
  | file (channel : Nat) (flow : Flow) (target : List Piece)
  /-- A text in the script itself, by its number. -/
  | document (channel : Nat) (number : Nat)

inductive Command where
  | nothing
  | simple (line : Nat) (settings : List (String × List Piece)) (words : List (List Piece))
      (redirects : List Redirect)
  | pipeline (parts : List Command)
  | opposite (c : Command)
  /-- The second is run if the first came out well, or if it did not. -/
  | linked (well : Bool) (first second : Command)
  | sequence (first second : Command)
  | background (c : Command)
  /-- In a process of its own. -/
  | apart (line : Nat) (c : Command) (redirects : List Redirect)
  | redirected (line : Nat) (c : Command) (redirects : List Redirect)
  | branch (condition body otherwise : Command)
  /-- Goes on while the condition comes out as `well` says. -/
  | loop (well : Bool) (condition body : Command)
  | each (line : Nat) (name : String) (words : List (List Piece)) (body : Command)
  | choice (line : Nat) (word : List Piece) (cases : List (List (List Piece) × Command))
  | define (name : String) (body : Command)

end

instance : Inhabited Command := ⟨.nothing⟩

abbrev Word := List Piece

def isNameStart (c : Char) : Bool := c.isAlpha || c == '_'

def isNamePart (c : Char) : Bool := c.isAlphanum || c == '_'

def isName (cs : List Char) : Bool :=
  match cs with
  | [] => false
  | c :: rest => isNameStart c && rest.all isNamePart

/-- Parameters that are called by a sign. -/
def isSpecial (c : Char) : Bool := "!#$*-?@".toList.contains c || c.isDigit

/-- The text of a word that has nothing but text in it and was not quoted. -/
def Word.bare? : Word → Option (List Char)
  | [] => some []
  | .text false cs :: rest => (Word.bare? rest).map (cs ++ ·)
  | _ => none

def Piece.isQuoted : Piece → Bool
  | .text quoted _ => quoted
  | .param .. | .output .. | .sum .. => false

/-- A setting of a variable: a name, an equals sign and a value. -/
def Word.setting? (w : Word) : Option (String × Word) :=
  match w with
  | .text false cs :: rest =>
    let name := cs.takeWhile (· != '=')
    match cs.dropWhile (· != '=') with
    | [] => none
    | _ :: value =>
      if !isName name then none
      else
        let first := if value.isEmpty then [] else [Piece.text false value]
        some (String.ofList name, first ++ rest)
  | _ => none

end ModemBench.Script
