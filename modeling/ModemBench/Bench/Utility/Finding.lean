import ModemBench.Bench.Expression
import ModemBench.Bench.Utility.Input
/-!
A program that picks out the lines that an expression fits.
-/

namespace ModemBench.Utility

/-- What is looked for in lines, and what counts as found. -/
structure Wanted where
  expressions : List Expression
  whole : Bool := false
  word : Bool := false

/-- The first fit in a line from some place on: what is before it, and its length. -/
def Wanted.find? (w : Wanted) (row : List Char) (from_ : Nat) : Option (Nat × Nat) :=
  let found := w.expressions.filterMap fun e =>
    if w.whole then
      let rows := e.map fun parts => parts ++ [.back]
      (Expression.longest? rows { before := 0, behind := row }).map fun f => (0, f.before)
    else (List.range (row.length + 1 - from_)).findSome? fun i =>
      let start := from_ + i
      match Expression.longest? e { before := start, behind := row.drop start } with
      | none => none
      | some f =>
        let edge (c : Option Char) : Bool := !c.any Expression.isWordPart
        let bounded := edge (if start = 0 then none else row[start - 1]?) && edge row[f.before]?
        if !w.word ∨ bounded then some (start, f.before - start) else none
  found.foldl (fun best (start, length) =>
    match best with
    | some (s, l) => if start < s ∨ (start = s ∧ l < length) then some (start, length) else best
    | none => some (start, length)) none

/-- All fits in a line that are not empty. -/
def Wanted.all (w : Wanted) (line : List Char) : (fuel : Nat) → (from_ : Nat) → List String
  | 0, _ => []
  | fuel + 1, from_ =>
    match w.find? line from_ with
    | none => []
    | some (start, 0) => if start < line.length then w.all line fuel (start + 1) else []
    | some (start, length) =>
      String.ofList ((line.drop start).take length) :: w.all line fuel (start + length)

/-- An expression of letters that mean nothing but themselves. -/
def literal (folded : Bool) (text : String) : Expression :=
  [text.toList.map fun c => .one fun x => if folded then x.toLower == c.toLower else x == c]

def known : Known := {
  plain := "ivcnlLoxwEFGhHqsa"
  valued := "em"
  names := [("quiet", 'q'), ("silent", 'q'), ("count", 'c'), ("ignore-case", 'i')] }

/-- What is found in one file: the lines to show, and how many lines count. -/
def searched (a : Arguments) (w : Wanted) (lead : String) (text : String) : List String × Nat :=
  let picked := ((lines text).zipIdx).filter fun (line, _) =>
    (w.find? line.toList 0).isSome != a.has 'v'
  let picked := match (a.value? 'm').bind count? with
    | some n => picked.take n
    | none => picked
  let shown := picked.flatMap fun (line, i) =>
    let lead := lead ++ if a.has 'n' then toString (i + 1) ++ ":" else ""
    if a.has 'o' then
      if a.has 'v' then [] else (w.all line.toList (line.length + 1) 0).map (lead ++ ·)
    else [lead ++ line]
  (shown, picked.length)

def grep (words : List String) : Work Nat :=
  withArguments "grep" known 2 words fun a => do
    let given := ((a.options.filter (·.1 == 'e')).map (·.2))
    let (patterns, files) := if given.isEmpty then (a.operands.take 1, a.operands.drop 1)
      else (given, a.operands)
    if patterns.isEmpty then
      Work.complain "Usage: grep [OPTION]... PATTERNS [FILE]...\n"
      Work.complain "Try 'grep --help' for more information.\n"
      return 2
    let folded := a.has 'i'
    let patterns := patterns.flatMap (·.splitOn "\n")
    match patterns.mapM fun p =>
        if a.has 'F' then some (literal folded p) else Expression.read? (a.has 'E') folded p with
    | none =>
      Work.complain "grep: Invalid regular expression\n"
      return 2
    | some expressions =>
      let w : Wanted := { expressions, whole := a.has 'x', word := a.has 'w' }
      let mut failed := false
      let mut found := false
      let mut text := ""
      for path in if files.isEmpty then ["-"] else files do
        match ← contents path with
        | .error e =>
          unless a.has 's' do
            let _ ← report "grep" path e
          failed := true
        | .ok content =>
          let title := if path = "-" then "(standard input)" else path
          let named := (1 < files.length && !a.has 'h') || a.has 'H'
          let lead := if named then title ++ ":" else ""
          let (shown, count) := searched a w lead content
          found := found || 0 < count
          text := text ++
            if a.has 'q' then ""
            else if a.has 'l' then (if 0 < count then title ++ "\n" else "")
            else if a.has 'L' then (if count = 0 then title ++ "\n" else "")
            else if a.has 'c' then lead ++ toString count ++ "\n"
            else unlines shown
      if a.has 'q' ∧ found then return 0
      output "grep" text (if failed then 2 else if found then 0 else 1) 2

end ModemBench.Utility
