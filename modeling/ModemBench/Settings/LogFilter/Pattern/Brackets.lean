import ModemBench.Settings.LogFilter.Pattern.Escape
/-!
Classes of characters in brackets: members and ranges, classes by name, classes within classes,
and operations between them. The depth of a class counts what is nested in it.
-/

namespace ModemBench.Pattern

/-- Whether a letter may be in a class. A narrow one takes nothing past ASCII. -/
def Mode.takesMember (m : Mode) (c : Char) : Bool :=
  if m.wide then !m.anyCase else c.toNat < 0x80

/-- The members of a class so far, and the depth of the deepest. -/
structure Members where
  count : Nat := 0
  deepest : Nat := 0
deriving Repr, DecidableEq

def Members.add (depth : Nat) (u : Members) : Members := ⟨u.count + 1, max depth u.deepest⟩

/-- Members beside each other are a level of their own. -/
def Members.depth (u : Members) : Nat := if 1 < u.count then u.deepest + 1 else u.deepest

/-- The depth of an operation on what stands before it, if there is one, and the members. -/
def Members.joined (before : Option Nat) (u : Members) : Nat :=
  match before with
  | none => u.depth
  | some depth => max depth u.depth + 1

def member? (m : Mode) (cs : List Char) : Option (Escaped × List Char) :=
  match cs with
  | [] => none
  | '\\' :: rest => escape? m rest
  | c :: rest => some (.letter c false, rest)

/-- Whether a member may stand for itself. -/
def Mode.takesAlone (m : Mode) : Escaped → Bool
  | .letter c _ => m.takesMember c
  | .letters => true
  | .place => false

/-- The first character that counts. A comment that has begun is not looked for a second time. -/
def ahead? : (comment : Bool) → List Char → Option Char
  | _, [] => none
  | comment, c :: rest =>
    if Text.isBlank c then ahead? comment rest
    else if !comment && c == '#' then ahead? true rest
    else some c

def Mode.ahead? (m : Mode) (cs : List Char) : Option Char :=
  if m.spaced then Pattern.ahead? false cs else cs.head?

/-- What follows a member, and the end of a range if it is the start of one. -/
def rangeEnd? (m : Mode) (first : Escaped) (cs : List Char) : Option (List Char) :=
  let alone := if m.takesAlone first then some (m.skip cs) else none
  match m.skip cs with
  | '-' :: rest =>
    if (m.ahead? rest).any fun c => c == ']' || c == '-' then alone
    else match first, member? m (m.skip rest) with
      | .letter low _, some (.letter high _, left) =>
        if low ≤ high ∧ m.takesMember low ∧ m.takesMember high then some left else none
      | _, _ => none
  | _ => alone

def classNames : List String := [
  "alnum", "alpha", "ascii", "blank", "cntrl", "digit", "graph", "lower", "print", "punct",
  "space", "upper", "word", "xdigit"]

/-- A class by name, such as `:digit:]` after its bracket: whether it is turned round, and what
follows it. -/
def namedClass? (cs : List Char) : Option (Bool × List Char) :=
  match cs with
  | ':' :: rest =>
    let (turned, rest) := match rest with
      | '^' :: rest => (true, rest)
      | _ => (false, rest)
    let name := rest.takeWhile (· != ':')
    match rest.dropWhile (· != ':') with
    | ':' :: ']' :: left =>
      if classNames.contains (String.ofList name) then some (turned, left) else none
    | _ => none
  | _ => none

/-- A narrow class may not be turned round. -/
def Mode.takesTurned (m : Mode) (turned : Bool) : Bool := m.wide || !turned

/-- Dashes at the start of a class are members. -/
def dashes (m : Mode) : (fuel : Nat) → Members → List Char → Members × List Char
  | fuel + 1, u, '-' :: rest => dashes m fuel (u.add 0) (m.skip rest)
  | _, u, cs => (u, cs)

/-- What opens a class: a caret if it is turned round, and then dashes or one bracket that are
members. -/
def head? (m : Mode) (cs : List Char) : Option (Members × List Char) :=
  let cs := m.skip cs
  let (turned, cs) := match cs with
    | '^' :: rest => (true, m.skip rest)
    | _ => (false, cs)
  let (u, left) := match dashes m cs.length {} cs with
    | (⟨0, _⟩, ']' :: rest) => (Members.add 0 {}, rest)
    | found => found
  if m.takesTurned turned && (u.count == 0 || m.takesMember '-') then some (u, left) else none

/-- The rest of a class, up to its end; `before` is the depth of what the last operation follows.
Gives the depth of all of it. -/
def members? (m : Mode) :
    (fuel : Nat) → (before : Option Nat) → Members → List Char → Option (Nat × List Char)
  | 0, _, _, _ => none
  | fuel + 1, before, u, cs =>
    match m.skip cs with
    | [] => none
    | '[' :: rest =>
      match namedClass? rest with
      | some (turned, left) =>
        if m.takesTurned turned && m.takesMember ':' then members? m fuel before (u.add 0) left
        else none
      | none => do
        let (inner, left) ← head? m rest
        let (depth, left) ← members? m fuel none inner left
        members? m fuel before (u.add (depth + 1)) left
    | ']' :: rest => some (u.joined before, rest)
    | '&' :: '&' :: rest | '-' :: '-' :: rest | '~' :: '~' :: rest =>
      members? m fuel (some (u.joined before)) {} rest
    | cs => do
      let (first, left) ← member? m cs
      members? m fuel before (u.add 0) (← rangeEnd? m first left)

/-- What follows an opening bracket, with the depth of the class. -/
def class? (m : Mode) (cs : List Char) : Option (Nat × List Char) := do
  let (u, left) ← head? m cs
  let (depth, left) ← members? m (left.length + 1) none u left
  some (depth + 1, left)

end ModemBench.Pattern
