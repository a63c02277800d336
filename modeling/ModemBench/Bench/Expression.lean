import ModemBench.Bench.Shell.Glob
/-!
Expressions that describe texts: characters and sets of them, repeated, one after another or as
alternatives, with parts that can be referred to. What signs mean depends on how an expression is
written: plain signs mean more in an extended one, signs behind a backslash in a basic one.
-/

namespace ModemBench.Expression

inductive Node where
  | one (kind : Char → Bool)
  | front
  | back
  /-- One of several rows, kept under a number. -/
  | group (number : Nat) (rows : List (List Node))
  | repeated (least : Nat) (most : Option Nat) (node : Node)
  /-- What another part was fitted by. -/
  | again (number : Nat)

end ModemBench.Expression

/-- Rows of parts, of which one has to fit. -/
abbrev ModemBench.Expression := List (List ModemBench.Expression.Node)

namespace ModemBench.Expression

/-- A sign of an expression. -/
inductive Sign where
  | node (n : Node)
  | open
  | close
  | bar
  | repetition (least : Nat) (most : Option Nat)

/-- The characters in brackets up to the last one. -/
def members : (fuel : Nat) → (first : Bool) → List Char →
    Option (List (Char → Bool) × List Char)
  | 0, _, _ | _ + 1, _, [] => none
  | fuel + 1, first, c :: rest =>
    if c = ']' ∧ !first then some ([], rest)
    else
      let add (kind : Char → Bool) (left : List Char) :=
        (members fuel false left).map fun (kinds, left) => (kind :: kinds, left)
      match if c = '[' then Glob.class? (rest.map (·, false)) else none with
      | some (kind, left) => add kind (left.map (·.1))
      | none =>
        match rest with
        | '-' :: d :: left =>
          if d = ']' then add (· == c) rest else add (fun x => c ≤ x && x ≤ d) left
        | _ => add (· == c) rest

/-- A set in brackets, which may be turned round. -/
def set? (cs : List Char) : Option (Node × List Char) :=
  let (turned, cs) := match cs with
    | '^' :: rest => (true, rest)
    | _ => (false, cs)
  (members (cs.length + 1) true cs).map fun (kinds, left) =>
    (.one fun c => kinds.any (· c) != turned, left)

/-- How often something is repeated, up to the sign that ends that. -/
def bounds? (ending : List Char) (cs : List Char) : Option (Sign × List Char) :=
  let number (cs : List Char) : Option Nat := (String.ofList cs).toNat?
  let first := cs.takeWhile Char.isDigit
  match cs.drop first.length with
  | ',' :: rest =>
    let last := rest.takeWhile Char.isDigit
    let left := rest.drop last.length
    if ending.isPrefixOf left then
      some (.repetition ((number first).getD 0) (number last), left.drop ending.length)
    else none
  | left =>
    if ending.isPrefixOf left ∧ !first.isEmpty then
      some (.repetition ((number first).getD 0) (number first), left.drop ending.length)
    else none

def isWordPart (c : Char) : Bool := c.isAlphanum || c == '_'

/-- Signs of an expression. A sign of repetition at the front is a character. -/
def signs (extended folded : Bool) : (fuel : Nat) → (first : Bool) → List Char →
    Option (List Sign)
  | 0, _, _ | _ + 1, _, [] => some []
  | fuel + 1, first, c :: rest =>
    let go (s : Sign) (left : List Char) : Option (List Sign) :=
      let opens := match s with
        | .open | .bar => true
        | _ => false
      (signs extended folded fuel opens left).map (s :: ·)
    let letter (c : Char) (left : List Char) : Option (List Sign) :=
      go (.node (.one fun x => if folded then x.toLower == c.toLower else x == c)) left
    let special (c : Char) (left : List Char) : Option (List Sign) :=
      match c with
      | '(' => go .open left
      | ')' => go .close left
      | '|' => go .bar left
      | '+' => if first then letter c left else go (.repetition 1 none) left
      | '?' => if first then letter c left else go (.repetition 0 (some 1)) left
      | _ =>
        match bounds? (if extended then ['\x7d'] else ['\\', '\x7d']) left with
        | some (s, left) => go s left
        | none => if extended then letter c left else none
    let isSpecial (c : Char) : Bool := "()|+?\x7b".toList.contains c
    match c, rest with
    | '\\', d :: left =>
      if d.isDigit ∧ d ≠ '0' then go (.node (.again (d.toNat - '0'.toNat))) left
      else if d = 'w' then go (.node (.one isWordPart)) left
      else if d = 'W' then go (.node (.one (!isWordPart ·))) left
      else if d = 's' then go (.node (.one fun c => c == ' ' || ('\t' ≤ c && c ≤ '\r'))) left
      else if d = 'n' then letter '\n' left
      else if d = 't' then letter '\t' left
      else if !extended ∧ isSpecial d then special d left
      else letter d left
    | '\\', [] => none
    | '.', _ => go (.node (.one fun _ => true)) rest
    | '[', _ =>
      match set? rest with
      | some (.one kind, left) =>
        go (.node (.one fun c => kind c || folded && (kind c.toLower || kind c.toUpper))) left
      | _ => none
    | '*', _ => if first then letter c rest else go (.repetition 0 none) rest
    | '^', _ =>
      if extended ∨ first then
        (signs extended folded fuel true rest).map (.node .front :: ·)
      else letter c rest
    | '$', _ =>
      let ends := rest.isEmpty || ['\\', ')'].isPrefixOf rest || ['\\', '|'].isPrefixOf rest
      if extended ∨ ends then go (.node .back) rest else letter c rest
    | _, _ => if extended ∧ isSpecial c then special c rest else letter c rest

/-- Rows of nodes made of signs, up to the end of the part. `count` parts have been opened. -/
def rows : (fuel : Nat) → (count : Nat) → (inside : Bool) → (row : List Node) → List Sign →
    Option (Expression × Nat × List Sign)
  | 0, _, _, _, _ => none
  | _ + 1, count, inside, row, [] => if inside then none else some ([row], count, [])
  | fuel + 1, count, inside, row, s :: rest =>
    match s with
    | .node n => rows fuel count inside (row ++ [n]) rest
    | .bar => do
      let (others, count, left) ← rows fuel count inside [] rest
      some (row :: others, count, left)
    | .close => if inside then some ([row], count, rest) else none
    | .repetition least most =>
      match row.getLast? with
      | some n => rows fuel count inside (row.dropLast ++ [.repeated least most n]) rest
      | none => none
    | .open => do
      let (inner, after, left) ← rows fuel (count + 1) true [] rest
      rows fuel after inside (row ++ [.group (count + 1) inner]) left

/-- An expression as it is written. -/
def read? (extended folded : Bool) (text : String) : Option Expression := do
  let ss ← signs extended folded (text.length + 1) true text.toList
  let (e, _, _) ← rows (2 * ss.length + 2) 0 false [] ss
  some e

/-- Where a text has been fitted up to: what is before and behind that, and what parts were fitted
by. -/
structure Fit where
  before : Nat
  behind : List Char
  parts : List (Nat × List Char) := []

/-- All ways to fit a row of nodes from some place on, in the order in which they are tried. -/
def fits : (fuel : Nat) → List Node → Fit → List Fit
  | 0, _, _ => []
  | _ + 1, [], f => [f]
  | fuel + 1, n :: rest, f =>
    match n with
    | .one kind =>
      match f.behind with
      | c :: cs =>
        if kind c then fits fuel rest { f with before := f.before + 1, behind := cs } else []
      | [] => []
    | .front => if f.before = 0 then fits fuel rest f else []
    | .back => if f.behind.isEmpty then fits fuel rest f else []
    | .again number =>
      let cs := (f.parts.lookup number).getD []
      if cs.isPrefixOf f.behind then
        fits fuel rest
          { f with before := f.before + cs.length, behind := f.behind.drop cs.length }
      else []
    | .group number rows =>
      rows.flatMap fun row =>
        (fits fuel row f).flatMap fun g =>
          let cs := f.behind.take (g.before - f.before)
          fits fuel rest { g with parts := (number, cs) :: g.parts }
    | .repeated least most n =>
      let more :=
        if most = some 0 then []
        else (fits fuel [n] f).flatMap fun g =>
          if g.before = f.before then []
          else fits fuel (.repeated (least - 1) (most.map (· - 1)) n :: rest) g
      if least = 0 then more ++ fits fuel rest f else more

/-- The first of the longest fits from some place on. -/
def longest? (e : Expression) (f : Fit) : Option Fit :=
  let all := e.flatMap fun row => fits (16 * (f.behind.length + 8) + 4 * row.length) row f
  all.foldl (fun best g =>
    match best with
    | some b => if b.before < g.before then some g else best
    | none => some g) none

/-- The first place from some place on where an expression fits: what is before it, and the fit. -/
def search? (e : Expression) : (before : Nat) → List Char → Option (Nat × Fit)
  | before, cs =>
    match longest? e { before, behind := cs } with
    | some f => some (before, f)
    | none =>
      match cs with
      | [] => none
      | _ :: rest => search? e (before + 1) rest

end ModemBench.Expression
