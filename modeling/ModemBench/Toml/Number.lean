import ModemBench.Toml.Lexical
import ModemBench.Text.Numeral
import ModemBench.Tree
/-!
Numbers, dates and times in TOML. A whole number has to fit a signed 64-bit word, and a float
may not be so large that it rounds to infinity.
-/

namespace ModemBench.Toml

open ModemBench.Text (isDigit digitsValue hexDigit?)

/-- Digits with single underscores between them, which are dropped. -/
def run? (digit : Char → Bool) : List Char → Option (List Char × List Char)
  | [] => none
  | c :: rest => if digit c then some (more c rest) else none
where
  more (c : Char) : List Char → List Char × List Char
    | '_' :: d :: rest =>
      if digit d then
        let (ds, left) := more d rest
        (c :: ds, left)
      else ([c], '_' :: d :: rest)
    | d :: rest =>
      if digit d then
        let (ds, left) := more d rest
        (c :: ds, left)
      else ([c], d :: rest)
    | [] => ([c], [])

/-- Whether a minus sign stands ahead; either sign is taken. -/
def sign (cs : List Char) : Bool × List Char :=
  match cs with
  | '-' :: rest => (true, rest)
  | '+' :: rest => (false, rest)
  | _ => (false, cs)

/-- A decimal whole number without needless zeros. -/
def whole? : List Char → Option (List Char × List Char)
  | '0' :: rest => some (['0'], rest)
  | cs => run? isDigit cs

/-- A power of ten with its sign, after `e`. -/
def exponent? : List Char → Option (Int × List Char)
  | c :: rest =>
    if c == 'e' || c == 'E' then do
      let (negative, rest) := sign rest
      let (digits, left) ← run? isDigit rest
      let n : Int := digitsValue digits
      some (if negative then -n else n, left)
    else none
  | [] => none

/-- Whether `digits * 10 ^ power` is nearer to the first power of two that a double cannot hold
than to the largest double. -/
def overflows (digits : List Char) (power : Int) : Bool :=
  let digits := digits.dropWhile (· == '0')
  let places : Int := digits.length + power
  if digits.isEmpty || places < 300 then false
  else if places > 320 then true
  else
    let bound := Nat.pow 2 1024 - Nat.pow 2 970
    if 0 ≤ power then decide (bound ≤ digitsValue digits * Nat.pow 10 power.toNat)
    else decide (bound * Nat.pow 10 (-power).toNat ≤ digitsValue digits)

def finite? (negative : Bool) (digits : List Char) (power : Int) (left : List Char) :
    Option (Tree × List Char) :=
  if !negative && overflows digits power then none else some (.float, left)

def float? (cs : List Char) : Option (Tree × List Char) :=
  let (negative, cs) := sign cs
  match cs with
  | 'i' :: 'n' :: 'f' :: left => some (.float, left)
  | 'n' :: 'a' :: 'n' :: left => some (.float, left)
  | _ => do
    let (digits, left) ← whole? cs
    match left with
    | '.' :: rest =>
      let (places, left) ← run? isDigit rest
      let (power, left) := (exponent? left).getD (0, left)
      finite? negative (digits ++ places) (power - places.length) left
    | _ =>
      let (power, left) ← exponent? left
      finite? negative digits power left

def baseDigit (base : Nat) (c : Char) : Bool :=
  match hexDigit? c with
  | some d => d < base
  | none => false

/-- One more than the largest signed 64-bit word. -/
def wordBound : Nat := 9223372036854775808

def based? (base : Nat) (cs : List Char) : Option (Tree × List Char) := do
  let (digits, left) ← run? (baseDigit base) cs
  let value := digits.foldl (fun v c => v * base + (hexDigit? c).getD 0) 0
  if value < wordBound then some (.nat value, left) else none

def integer? : List Char → Option (Tree × List Char)
  | '0' :: 'x' :: rest => based? 16 rest
  | '0' :: 'o' :: rest => based? 8 rest
  | '0' :: 'b' :: rest => based? 2 rest
  | cs => do
    let (negative, rest) := sign cs
    let (digits, left) ← whole? rest
    let n : Int := digitsValue digits
    let value := if negative then -n else n
    if -(wordBound : Int) ≤ value ∧ value < wordBound then some (.int value, left) else none

/-- Exactly `n` digits with a value from `low` to `high`. -/
def field? (n low high : Nat) (cs : List Char) : Option (Nat × List Char) :=
  let digits := cs.take n
  let value := digitsValue digits
  if digits.length = n ∧ digits.all isDigit ∧ low ≤ value ∧ value ≤ high then
    some (value, cs.drop n)
  else none

def mark? (c : Char) : List Char → Option (List Char)
  | d :: rest => if d == c then some rest else none
  | [] => none

def daysIn (year month : Nat) : Nat :=
  if month = 2 then
    if year % 4 = 0 ∧ (year % 100 ≠ 0 ∨ year % 400 = 0) then 29 else 28
  else if month = 4 ∨ month = 6 ∨ month = 9 ∨ month = 11 then 30
  else 31

def date? (cs : List Char) : Option (List Char) := do
  let (year, cs) ← field? 4 0 9999 cs
  let cs ← mark? '-' cs
  let (month, cs) ← field? 2 1 12 cs
  let cs ← mark? '-' cs
  let (_, cs) ← field? 2 1 (daysIn year month) cs
  some cs

/-- A leap second is allowed in any minute. -/
def time? (cs : List Char) : Option (List Char) := do
  let (_, cs) ← field? 2 0 23 cs
  let cs ← mark? ':' cs
  let (_, cs) ← field? 2 0 59 cs
  let cs ← mark? ':' cs
  let (_, cs) ← field? 2 0 60 cs
  match cs with
  | '.' :: c :: rest => if isDigit c then some (rest.dropWhile isDigit) else some cs
  | _ => some cs

def offset? : List Char → Option (List Char)
  | [] => none
  | c :: rest =>
    if c == 'Z' || c == 'z' then some rest
    else if c == '+' || c == '-' then do
      let (_, cs) ← field? 2 0 23 rest
      let cs ← mark? ':' cs
      let (_, cs) ← field? 2 0 59 cs
      some cs
    else none

/-- A date, a time, or both with a zone if there is one. -/
def moment? (cs : List Char) : Option (List Char) :=
  match date? cs with
  | none => time? cs
  | some left =>
    match left with
    | c :: rest =>
      if c == 'T' || c == 't' || c == ' ' then
        match time? rest with
        | some left => some ((offset? left).getD left)
        | none => some left
      else some left
    | [] => some left

def number? (cs : List Char) : Option (Tree × List Char) :=
  ((moment? cs).map (Tree.moment, ·)) <|> float? cs <|> integer? cs

end ModemBench.Toml
