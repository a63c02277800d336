import ModemBench.Bench.Job
/-!
Patterns for texts and names: `*` fits anything, `?` any character, and brackets one of several.
Each character of a pattern comes with whether it was quoted; one that was stands for itself.
-/

namespace ModemBench.Glob

/-- A pattern's characters, and whether they were quoted. -/
abbrev Pattern := List (Char × Bool)

def isPunctuation (c : Char) : Bool := '!' ≤ c && c ≤ '~' && !c.isAlphanum

/-- The classes that brackets may name. -/
def classes : List (String × (Char → Bool)) := [
  ("alnum", Char.isAlphanum), ("alpha", Char.isAlpha), ("blank", fun c => c == ' ' || c == '\t'),
  ("cntrl", fun c => c < ' ' || c == '\x7f'), ("digit", Char.isDigit),
  ("graph", fun c => '!' ≤ c && c ≤ '~'), ("lower", Char.isLower),
  ("print", fun c => ' ' ≤ c && c ≤ '~'), ("punct", isPunctuation),
  ("space", fun c => c == ' ' || ('\t' ≤ c && c ≤ '\r')), ("upper", Char.isUpper),
  ("xdigit", fun c => c.isDigit || ('a' ≤ c && c ≤ 'f') || ('A' ≤ c && c ≤ 'F'))]

/-- A class by name, such as `:digit:]`, and what follows it. -/
def class? (p : Pattern) : Option ((Char → Bool) × Pattern) :=
  classes.findSome? fun (name, kind) =>
    let written := (":" ++ name ++ ":]").toList
    if p.take written.length = written.map (·, false) then some (kind, p.drop written.length)
    else none

/-- The next character of a pattern, which a backslash makes stand for itself. -/
def literal? : Pattern → Option (Char × Pattern)
  | ('\\', false) :: (c, _) :: rest => some (c, rest)
  | (c, _) :: rest => some (c, rest)
  | [] => none

/-- Whether a character is among those in brackets, and what follows them. Nothing where they are
not closed. -/
def among? (c : Char) : (fuel : Nat) → (first found : Bool) → Pattern → Option (Bool × Pattern)
  | 0, _, _, _ | _ + 1, _, _, [] => none
  | fuel + 1, first, found, (d, quoted) :: rest =>
    if d = ']' ∧ !quoted ∧ !first then some (found, rest)
    else
      match if d = '[' ∧ !quoted then class? rest else none with
      | some (kind, left) => among? c fuel false (found || kind c) left
      | none => do
        let (low, left) ← literal? ((d, quoted) :: rest)
        match left with
        | ('-', false) :: next :: more =>
          if next = (']', false) then among? c fuel false (found || c == low) left
          else
            let (high, left) ← literal? (next :: more)
            among? c fuel false (found || (low ≤ c && c ≤ high)) left
        | _ => among? c fuel false (found || c == low) left

/-- Whether a pattern fits all of a text. -/
def fitsWithin : (fuel : Nat) → Pattern → List Char → Bool
  | 0, _, _ => false
  | _ + 1, [], cs => cs.isEmpty
  | fuel + 1, (d, quoted) :: rest, cs =>
    if d = '*' ∧ !quoted then
      fitsWithin fuel rest cs || (!cs.isEmpty && fitsWithin fuel ((d, quoted) :: rest) cs.tail)
    else match cs with
      | [] => false
      | c :: cs =>
        if d = '?' ∧ !quoted then fitsWithin fuel rest cs
        else
          let set? := if d = '[' ∧ !quoted then
            match rest with
            | ('!', false) :: inner => (among? c (inner.length + 1) true false inner).map
                fun (found, left) => (!found, left)
            | inner => among? c (inner.length + 1) true false inner
            else none
          match set? with
          | some (found, left) => found && fitsWithin fuel left cs
          | none =>
            match literal? ((d, quoted) :: rest) with
            | some (e, left) => e == c && fitsWithin fuel left cs
            | none => false

def fits (p : Pattern) (cs : List Char) : Bool :=
  fitsWithin (p.length + cs.length + 1) p cs

/-- What is left of a text when the shortest or longest part at its front that fits is cut off. -/
def cutFront (p : Pattern) (longest : Bool) (cs : List Char) : List Char :=
  let lengths := List.range (cs.length + 1)
  let order := if longest then lengths.reverse else lengths
  match order.find? fun n => fits p (cs.take n) with
  | some n => cs.drop n
  | none => cs

/-- Likewise at its end. -/
def cutEnd (p : Pattern) (longest : Bool) (cs : List Char) : List Char :=
  let lengths := List.range (cs.length + 1)
  let order := if longest then lengths else lengths.reverse
  match order.find? fun n => fits p (cs.drop n) with
  | some n => cs.take n
  | none => cs

/-- Whether brackets that open here are closed in the same part of a path. -/
def closes (p : Pattern) : Bool :=
  let inner := match p with
    | ('!', false) :: inner => inner
    | inner => inner
  inner.tail.contains (']', false)

/-- Whether a part of a path may fit more than one name. -/
def isOpen : Pattern → Bool
  | [] => false
  | ('\\', false) :: _ :: rest => isOpen rest
  | (c, quoted) :: rest =>
    (!quoted && (c == '*' || c == '?' || (c == '[' && closes rest))) || isOpen rest

def text (p : Pattern) : List Char := p.map (·.1)

/-- A path in parts, each with the slashes behind it. -/
def parts : (fuel : Nat) → Pattern → List (Pattern × List Char)
  | 0, _ => []
  | fuel + 1, p =>
    let part := p.takeWhile fun (c, _) => c != '/'
    let left := p.drop part.length
    let slashes := left.takeWhile fun (c, _) => c == '/'
    if left.isEmpty then [(part, [])]
    else (part, text slashes) :: parts fuel (left.drop slashes.length)

/-- The paths that fit, below what has been fixed so far. Names with a dot in front are only meant
by a pattern that has it, too. -/
def below (j : Job) : List (Pattern × List Char) → (fixed : String) → List String
  | [], fixed => if j.exists? fixed then [fixed] else []
  | (part, slashes) :: rest, fixed =>
    let fixedBy (name : List Char) := fixed ++ String.ofList name ++ String.ofList slashes
    if isOpen part then
      match j.find (if fixed.isEmpty then "." else fixed) with
      | .ok (place, .folder) =>
        let hidden := (literal? part).any (·.1 == '.')
        let names := [".", ".."] ++ (j.disk.children place).map Text.Raw.ofText
        let found := names.filter fun name =>
          (hidden || name.toList.head? != some '.') && fits part name.toList
        found.flatMap fun name => below j rest (fixedBy name.toList)
      | _ => []
    else below j rest (fixedBy (text part))

/-- The paths that a pattern fits, in order. If there are none it stands for itself. -/
def expand (j : Job) (p : Pattern) : List String :=
  let found := if isOpen p then (below j (parts (p.length + 1) p) "").mergeSort (· ≤ ·) else []
  if found.isEmpty then [String.ofList (text p)] else found

end ModemBench.Glob
