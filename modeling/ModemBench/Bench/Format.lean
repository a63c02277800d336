import ModemBench.Bench.Format.Escape
import ModemBench.Bench.Format.Number
/-!
Formats: texts with places for words, which are used again until there are no words left.
-/

namespace ModemBench.Format

/-- What comes of a format: a text, what is said about words that are no numbers, and what is
wrong with the format if it had to be given up. -/
structure Printed where
  text : List Char := []
  complaints : List String := []
  flaw : Option String := none
  /-- Whether a word asked for the end of all printing. -/
  ended : Bool := false

/-- How much of a word is a number, and the number, which is cut down to what can be held. -/
def number (isSigned : Bool) (word : String) : Int × List String :=
  let cs := word.toList
  match cs with
  | '"' :: rest | '\x27' :: rest => ((rest.head?.map fun c => (c.toNat : Int)).getD 0, [])
  | _ =>
    let (negative, digits) := match cs.dropWhile Sum.isSpace with
      | '-' :: rest => (true, rest)
      | '+' :: rest => (false, rest)
      | cs => (false, cs)
    if !digits.head?.any Char.isDigit then
      (0, if word = "" then [] else [word ++ ": expected numeric value"])
    else
      let (n, left) := Sum.natural digits
      let most := if !isSigned then 18446744073709551615
        else if negative then Sum.greatest + 1 else Sum.greatest
      let complaint :=
        if !left.isEmpty then [word ++ ": not completely converted"]
        else if most < n then [word ++ ": Numerical result out of range"]
        else []
      let kept : Int := min n most
      let value := if !negative then kept
        else if isSigned then -kept
        else if most < n then kept else (18446744073709551616 - kept) % 18446744073709551616
      (value, complaint)

/-- A decimal fraction at the front of a word, and what is said if there is more or none. -/
def fractionOf (word : String) : Float × List String :=
  let (negative, cs) := match word.toList.dropWhile Sum.isSpace with
    | '-' :: rest => (true, rest)
    | '+' :: rest => (false, rest)
    | cs => (false, cs)
  let whole := cs.takeWhile Char.isDigit
  let (places, left) := match cs.drop whole.length with
    | '.' :: rest => (rest.takeWhile Char.isDigit, rest.dropWhile Char.isDigit)
    | left => ([], left)
  if whole.isEmpty ∧ places.isEmpty then
    (0, if word = "" then [] else [word ++ ": expected numeric value"])
  else
    let value (cs : List Char) : Nat := cs.foldl (fun n c => n * 10 + (c.toNat - '0'.toNat)) 0
    let (e, left) : Int × List Char := match left with
      | x :: rest =>
        let (below, digits) := match rest with
          | '-' :: digits => (true, digits)
          | '+' :: digits => (false, digits)
          | _ => (false, rest)
        let found := digits.takeWhile Char.isDigit
        if (x = 'e' ∨ x = 'E') ∧ !found.isEmpty then
          (if below then -(value found : Int) else value found, digits.drop found.length)
        else (0, left)
      | [] => (0, left)
    let power := e - places.length
    let x := Float.ofScientific (value (whole ++ places)) (power < 0) power.natAbs
    (if negative then -x else x,
      if left.isEmpty then [] else [word ++ ": not completely converted"])

/-- A count in a format, given there or by a word. -/
def count (cs : List Char) (words : List String) :
    Option Int × List Char × List String × List String :=
  match cs with
  | '*' :: rest =>
    let (n, complaints) := number true (words.headD "")
    (some n, rest, words.tail, complaints)
  | _ =>
    let digits := cs.takeWhile Char.isDigit
    let n := digits.foldl (fun n c => n * 10 + (c.toNat - '0'.toNat)) 0
    (if digits.isEmpty then none else some n, cs.drop digits.length, words, [])

/-- One place of a format, behind its percent sign: what it prints, and what is left. -/
def place (cs : List Char) (words : List String) : Printed × List Char × List String :=
  let flags := cs.takeWhile "#-+ 0".toList.contains
  let (width, left, words, said) := count (cs.drop flags.length) words
  let (precision, left, words, more) := match left with
    | '.' :: rest =>
      let (n, left, words, said) := count rest words
      (some (n.getD 0), left, words, said)
    | _ => (none, left, words, [])
  let width := width.getD 0
  let flags := if width < 0 then '-' :: flags else flags
  let l : Layout := ⟨flags, width.natAbs, (precision.filter (0 ≤ ·)).map Int.toNat⟩
  let cut (cs : List Char) := l.precision.elim cs (cs.take ·)
  let complaints := said ++ more
  match left with
  | [] => ({ complaints, flaw := some "missing format character" }, [], words)
  | kind :: rest =>
    let word := words.headD ""
    let done (text : List Char) (said : List String) : Printed × List Char × List String :=
      ({ text, complaints := complaints ++ said }, rest, words.tail)
    if kind = 's' then done (l.padded (cut word.toList)) []
    else if kind = 'c' then done (l.padded [word.toList.headD '\x00']) []
    else if kind = 'b' then
      let (cs, ended) := unescape (word.length + 1) word.toList
      let (printed, left) := done (l.padded (cut cs)) []
      ({ printed with ended }, left)
    else if kind = 'd' ∨ kind = 'i' then
      let (n, said) := number true word
      done (decimal l n) said
    else if ['o', 'u', 'x', 'X'].contains kind then
      let (n, said) := number false word
      done (plain l kind n.toNat) said
    else if ['e', 'E', 'f', 'F', 'g', 'G'].contains kind then
      let (x, said) := fractionOf word
      done (fraction l kind x) said
    else
      let shown := '%' :: cs.take (cs.length - rest.length)
      ({ complaints, flaw := some (String.ofList shown ++ ": invalid directive") }, rest, words)

/-- One pass through a format. -/
def pass : (fuel : Nat) → List Char → List String → Printed × List String
  | 0, _, words | _ + 1, [], words => ({}, words)
  | fuel + 1, c :: rest, words =>
    let letter (c : Char) (left : List Char) : Printed × List String :=
      let (more, words) := pass fuel left words
      ({ more with text := c :: more.text }, words)
    if c = '\\' then
      let (c, left) := escape rest
      letter c left
    else if c ≠ '%' then letter c rest
    else match rest with
      | '%' :: rest => letter '%' rest
      | _ =>
        let (here, left, words) := place rest words
        if here.ended ∨ here.flaw.isSome then (here, words)
        else
          let (more, words) := pass fuel left words
          ({ more with
            text := here.text ++ more.text
            complaints := here.complaints ++ more.complaints }, words)

/-- Words put into a format, which is gone through as often as it takes. -/
def printed (format : List Char) : (fuel : Nat) → List String → Printed
  | 0, _ => {}
  | fuel + 1, words =>
    let (here, left) := pass (format.length + 1) format words
    if here.ended ∨ here.flaw.isSome ∨ left.isEmpty ∨ left.length = words.length then here
    else
      let more := printed format fuel left
      { more with
        text := here.text ++ more.text
        complaints := here.complaints ++ more.complaints }

def print (format : String) (words : List String) : Printed :=
  printed format.toList (words.length + 1) words

end ModemBench.Format
