import ModemBench.Text.Blank
import ModemBench.Text.Hexadecimal
/-!
How the characters of a pattern are read, and what a backslash makes of them.
-/

namespace ModemBench.Pattern

/-- How letters are read: `wide` as characters rather than bytes, `anyCase` in either case. There
is no case table, so a wide pattern that holds a letter has to heed its case. Where a pattern is
`spaced`, white space and comments stand for nothing. -/
structure Mode where
  wide : Bool := true
  anyCase : Bool := false
  spaced : Bool := false
deriving Repr, DecidableEq

/-- What follows white space and comments, which last from a number sign to the end of the line. -/
def withoutSpace : (comment : Bool) → List Char → List Char
  | _, [] => []
  | true, c :: rest => withoutSpace (c != '\n') rest
  | false, c :: rest =>
    if c == '#' then withoutSpace true rest
    else if Text.isBlank c then withoutSpace false rest
    else c :: rest

def Mode.skip (m : Mode) (cs : List Char) : List Char :=
  if m.spaced then withoutSpace false cs else cs

/-- What a backslash and the characters after it stand for. A letter may be given as a byte. -/
inductive Escaped where
  | letter (c : Char) (byte : Bool)
  | letters
  | place
deriving Repr, DecidableEq

/-- Whether there is a text that a letter matches. Bytes past ASCII are no text. -/
def Mode.takes (m : Mode) (c : Char) (byte : Bool) : Bool :=
  if m.wide then !m.anyCase else !byte || c.toNat < 0x80

/-- So many hexadecimal digits. -/
def digits? (m : Mode) : Nat → List Char → Option (List Nat × List Char)
  | 0, cs => some ([], cs)
  | n + 1, cs =>
    match m.skip cs with
    | [] => none
    | c :: rest => do
      let d ← Text.hexDigit? c
      let (more, left) ← digits? m n rest
      some (d :: more, left)

/-- A character by its number, of exactly so many digits. Two digits make a byte. -/
def numbered? (m : Mode) (digits : Nat) (cs : List Char) : Option (Escaped × List Char) := do
  let (ds, left) ← digits? m digits cs
  some (.letter (← Text.character? ds) (digits == 2), left)

/-- Letters that name characters which are hard to write. -/
def special? (c : Char) : Option Char :=
  if c = 'a' then some '\x07'
  else if c = 'f' then some '\x0c'
  else if c = 't' then some '\t'
  else if c = 'n' then some '\n'
  else if c = 'r' then some '\r'
  else if c = 'v' then some '\x0b'
  else none

/-- What stands after a backslash. Classes of digits, blanks and word letters need tables that
only narrow patterns do without, and so do places between words. -/
def escape? (m : Mode) : List Char → Option (Escaped × List Char)
  | [] => none
  | c :: rest =>
    if c = 'x' then numbered? m 2 rest
    else if c = 'u' then numbered? m 4 rest
    else if c = 'U' then numbered? m 8 rest
    else if ['d', 's', 'w'].contains c then if m.wide then none else some (.letters, rest)
    else if ['b', 'B', '<', '>'].contains c then if m.wide then none else some (.place, rest)
    else if ['A', 'z'].contains c then some (.place, rest)
    else match special? c with
      | some found => some (.letter found false, rest)
      | none => if c.toNat < 0x80 && !c.isAlphanum then some (.letter c false, rest) else none

end ModemBench.Pattern
