import ModemBench.Bench.Expression
import ModemBench.Bench.Utility.Input
/-!
A program that edits lines, one after another, by a short script of its own.
-/

namespace ModemBench.Utility.Edit

inductive Address where
  | line (n : Nat)
  | last
  | fitting (e : Expression)

/-- A part of what is put in for a fit. -/
inductive Part where
  | text (c : Char)
  | fitted (number : Nat)

inductive Deed where
  | substitute (e : Expression) (parts : List Part) (all shows : Bool) (nth : Nat)
  | transform (old new : List Char)
  | delete
  | show
  | number
  | quit
  | append (text : String)
  | insert (text : String)
  | change (text : String)

structure Instruction where
  addresses : List Address := []
  turned : Bool := false
  deed : Deed

/-- A text up to a sign that no backslash stands before, and what is behind that. -/
def delimited (sign : Char) : List Char → Option (List Char × List Char)
  | [] => none
  | '\\' :: c :: rest => do
    let (text, left) ← delimited sign rest
    some (if c = sign then (c :: text, left) else ('\\' :: c :: text, left))
  | c :: rest =>
    if c = sign then some ([], rest)
    else (delimited sign rest).map fun (text, left) => (c :: text, left)

def parts : List Char → List Part
  | '\\' :: c :: rest =>
    (if c.isDigit then .fitted (c.toNat - '0'.toNat)
      else .text (if c = 'n' then '\n' else if c = 't' then '\t' else c)) :: parts rest
  | '&' :: rest => .fitted 0 :: parts rest
  | c :: rest => .text c :: parts rest
  | [] => []

/-- Up to two addresses at the front of an instruction. -/
def addresses (extended : Bool) : (count : Nat) → List Char → Option (List Address × List Char)
  | 0, cs => some ([], cs)
  | count + 1, cs => do
    let found ← match cs with
      | '$' :: rest => some (some (Address.last, rest))
      | '/' :: rest => do
        let (text, left) ← delimited '/' rest
        let e ← Expression.read? extended false (String.ofList text)
        some (some (.fitting e, left))
      | c :: _ =>
        if c.isDigit then
          let digits := cs.takeWhile Char.isDigit
          some (some (.line ((count? (String.ofList digits)).getD 0), cs.drop digits.length))
        else some none
      | [] => some none
    match found with
    | none => some ([], cs)
    | some (a, ',' :: rest) =>
      let (more, left) ← addresses extended count rest
      some (a :: more, left)
    | some (a, rest) => some ([a], rest)

/-- What is done, with what is left of the script behind it. -/
def deed (extended : Bool) : List Char → Option (Deed × List Char)
  | 's' :: sign :: rest => do
    let (text, rest) ← delimited sign rest
    let (new, rest) ← delimited sign rest
    let flags := rest.takeWhile fun c => c == 'g' || c == 'p' || c == 'i' || c == 'I' || c.isDigit
    let folded := flags.contains 'i' || flags.contains 'I'
    let e ← Expression.read? extended folded (String.ofList text)
    let nth := ((count? (String.ofList (flags.filter Char.isDigit))).getD 1)
    some (.substitute e (parts new) (flags.contains 'g') (flags.contains 'p') nth,
      rest.drop flags.length)
  | 'y' :: sign :: rest => do
    let (old, rest) ← delimited sign rest
    let (new, rest) ← delimited sign rest
    if old.length = new.length then some (.transform old new, rest) else none
  | 'd' :: rest => some (.delete, rest)
  | 'p' :: rest => some (.show, rest)
  | '=' :: rest => some (.number, rest)
  | 'q' :: rest => some (.quit, rest)
  | c :: rest =>
    let make? : Option (String → Deed) := if c = 'a' then some .append
      else if c = 'i' then some .insert
      else if c = 'c' then some .change
      else none
    make?.map fun make =>
      let body := rest.dropWhile fun c => c == ' ' || c == '\\' || c == '\n'
      let line := body.takeWhile (· != '\n')
      (make (String.ofList line ++ "\n"), body.drop line.length)
  | [] => none

def isGap (c : Char) : Bool := c == ' ' || c == ';' || c == '\n' || c == '\t'

/-- The instructions of a script. -/
def instructions (extended : Bool) : (fuel : Nat) → List Char → Option (List Instruction)
  | 0, _ => none
  | fuel + 1, cs =>
    match cs.dropWhile isGap with
    | [] => some []
    | cs => do
      let (found, rest) ← addresses extended 2 cs
      let rest := rest.dropWhile (· == ' ')
      let (turned, rest) := match rest with
        | '!' :: rest => (true, rest.dropWhile (· == ' '))
        | _ => (false, rest)
      let (deed, rest) ← deed extended rest
      if !rest.isEmpty ∧ !rest.head?.any isGap then none
      else
        let more ← instructions extended fuel rest
        some ({ addresses := found, turned, deed } :: more)

/-- What stands in for fits in a line: the text, and whether there was a fit. -/
def substituted (e : Expression) (new : List Part) (all : Bool) : (fuel : Nat) → (nth : Nat) →
    (before : Nat) → List Char → List Char × Bool
  | 0, _, _, cs => (cs, false)
  | fuel + 1, nth, before, cs =>
    match Expression.search? e before cs with
    | none => (cs, false)
    | some (start, f) =>
      let lead := cs.take (start - before)
      let fitted := (cs.drop (start - before)).take (f.before - start)
      let put := new.flatMap fun part =>
        match part with
        | .text c => [c]
        | .fitted 0 => fitted
        | .fitted n => (f.parts.lookup n).getD []
      let here := if nth ≤ 1 then put else fitted
      if nth ≤ 1 ∧ !all then (lead ++ here ++ f.behind, true)
      else
        let (step, rest) := if fitted.isEmpty then (f.behind.take 1, f.behind.drop 1)
          else ([], f.behind)
        if fitted.isEmpty ∧ f.behind.isEmpty then (lead ++ here, nth ≤ 1)
        else
          let (more, found) := substituted e new all fuel (nth - 1) (f.before + step.length) rest
          (lead ++ here ++ step ++ more, nth ≤ 1 || found)

/-- What has been printed, and where the editing of one line has got to. -/
structure State where
  printed : String := ""
  behind : String := ""
  line : List Char
  gone : Bool := false
  stopped : Bool := false

/-- Whether an address means a line. -/
def Address.means (number : Nat) (isLast : Bool) (line : List Char) : Address → Bool
  | .line n => n == number
  | .last => isLast
  | .fitting e => (Expression.search? e 0 line).isSome

/-- Whether an instruction is for a line, where `open_` says that its range has begun; and whether
the range goes on behind the line. -/
def Instruction.covers (i : Instruction) (number : Nat) (isLast open_ : Bool) (line : List Char) :
    Bool × Bool :=
  let means := Address.means number isLast line
  let (inside, goes) := match i.addresses with
    | [] => (true, false)
    | [a] => (means a, false)
    | a :: b :: _ =>
      let past := match b with
        | .line n => n ≤ number
        | _ => false
      if open_ then (true, !(means b || past))
      else if means a then (true, !past)
      else (false, false)
  (inside != i.turned, goes)

def Deed.apply (d : Deed) (number : Nat) (s : State) : State :=
  let shown := String.ofList s.line ++ "\n"
  match d with
  | .substitute e new all shows nth =>
    let (line, found) := substituted e new all (s.line.length + 2) nth 0 s.line
    { s with
      line
      printed := s.printed ++ if found ∧ shows then String.ofList line ++ "\n" else "" }
  | .transform old new =>
    { s with line := s.line.map fun c => ((old.idxOf? c).bind fun i => new[i]?).getD c }
  | .delete => { s with gone := true }
  | .show => { s with printed := s.printed ++ shown }
  | .number => { s with printed := s.printed ++ toString number ++ "\n" }
  | .quit => { s with stopped := true }
  | .append text => { s with behind := s.behind ++ text }
  | .insert text => { s with printed := s.printed ++ text }
  | .change text => { s with printed := s.printed ++ text, gone := true }

/-- Edits one line. The instructions come with whether their ranges have begun. -/
def editLine (number : Nat) (isLast : Bool) :
    List (Instruction × Bool) → State → State × List (Instruction × Bool)
  | [], s => (s, [])
  | (i, open_) :: rest, s =>
    if s.gone ∨ s.stopped then (s, (i, open_) :: rest)
    else
      let (covers, goes) := i.covers number isLast open_ s.line
      let s := if covers then i.deed.apply number s else s
      let (s, others) := editLine number isLast rest s
      (s, (i, goes) :: others)

/-- Edits lines, and gives what is printed. -/
def edited (quiet : Bool) (is : List (Instruction × Bool)) (number : Nat) : List String → String
  | [] => ""
  | line :: rest =>
    let (s, is) := editLine number rest.isEmpty is { line := line.toList }
    let here := s.printed ++ (if quiet ∨ s.gone then "" else String.ofList s.line ++ "\n") ++
      s.behind
    if s.stopped then here else here ++ edited quiet is (number + 1) rest

/-- A text after editing. It ends without a line end if it did before. -/
def editedText (quiet : Bool) (is : List Instruction) (text : String) : String :=
  let out := edited quiet (is.map (·, false)) 1 (lines text)
  if text.endsWith "\n" ∨ text = "" ∨ out = "" then out
  else String.ofList out.toList.dropLast

def sed (words : List String) : Work Nat :=
  withArguments "sed" { plain := "nErsi", valued := "e" } 1 words fun a => do
    let given := ((a.options.filter (·.1 == 'e')).map (·.2))
    let (scripts, files) := if given.isEmpty then (a.operands.take 1, a.operands.drop 1)
      else (given, a.operands)
    if scripts.isEmpty then
      Work.complain ("Usage: sed [OPTION]... " ++
        "\x7bscript-only-if-no-other-script\x7d [input-file]...\n")
      return 1
    let text := "\n".intercalate scripts
    match instructions (a.has 'E' || a.has 'r') (text.length + 1) text.toList with
    | none =>
      Work.complain "sed: -e expression #1, char 1: unknown command\n"
      return 1
    | some is =>
      let mut status := 0
      let mut all := ""
      for path in if files.isEmpty then ["-"] else files do
        match ← contents path with
        | .error .isFolder =>
          Work.complain ("sed: couldn't edit " ++ path ++ ": not a regular file\n")
          status := 4
        | .error e =>
          let _ ← report "sed" ("can't read " ++ path) e
          status := 2
        | .ok text =>
          if a.has 'i' then
            let new := Text.Raw.toBytes (editedText (a.has 'n') is text).toList
            let j ← get
            match j.find path with
            | .ok (place, .file _ mode) => set (j.onDisk (·.put place (.file new mode)))
            | _ => pure ()
          else all := all ++ text
      if a.has 'i' then return status
      output "sed" (editedText (a.has 'n') is all) status

end ModemBench.Utility.Edit
