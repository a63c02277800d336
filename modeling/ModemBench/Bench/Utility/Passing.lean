import ModemBench.Bench.Utility.Input
/-!
Programs that pass on what they read, whole or in part, or count it.
-/

namespace ModemBench.Utility

/-- How lines are shown: with numbers, and with signs for their ends and for tabs. -/
structure Look where
  numbers : Bool
  blanks : Bool
  ends : Bool
  tabs : Bool

/-- A text as it is shown, and the number of the next line. -/
def Look.apply (l : Look) (first : Nat) (text : String) : String × Nat :=
  let parts := text.splitOn "\n"
  let ended := parts.getLast? = some ""
  let ls := if ended then parts.dropLast else parts
  let tabbed (line : String) : String :=
    if l.tabs then "^I".intercalate (line.splitOn "\t") else line
  let step := fun ((done, n) : List String × Nat) (line : String) =>
    if !l.numbers ∨ (line = "" ∧ !l.blanks) then (tabbed line :: done, n)
    else ((aligned 6 (toString n) ++ "\t" ++ tabbed line) :: done, n + 1)
  let (done, next) := ls.foldl step ([], first)
  let finish := if l.ends then "$\n" else "\n"
  (finish.intercalate done.reverse ++ if ended ∧ !ls.isEmpty then finish else "", next)

def cat (words : List String) : Work Nat :=
  withArguments "cat" { plain := "unbsveEtTA" } 1 words fun a => do
    if ((← get).channels.lookup 1).isNone then
      return ← report "cat" "standard output" .badDescriptor
    let look : Look := {
      numbers := a.has 'n' || a.has 'b'
      blanks := !a.has 'b'
      ends := a.has 'e' || a.has 'E' || a.has 'A'
      tabs := a.has 't' || a.has 'T' || a.has 'A' }
    let mut status := 0
    let mut next := 1
    for path in if a.operands.isEmpty then ["-"] else a.operands do
      match ← contents path with
      | .error e => status := ← report "cat" (shown path) e
      | .ok text =>
        let (out, after) := look.apply next text
        next := after
        status := ← output "cat" out status
    return status

def tee (words : List String) : Work Nat :=
  withArguments "tee" { plain := "aip" } 1 words fun a => do
    let text := (← Work.readAll 0).getD ""
    let bytes := Text.Raw.toBytes text.toList
    let status ← forAll a.operands fun path => do
      let j ← get
      match j.writable path with
      | .error e => report "tee" (shown path) e
      | .ok place =>
        match j.disk.at? place with
        | some (.file old mode) =>
          set (j.onDisk (·.put place (.file ((if a.has 'a' then old else []) ++ bytes) mode)))
        | some _ => pure ()
        | none =>
          let mode := 0o666 &&& (0o777 - j.mask)
          set (j.onDisk (·.put place (.file bytes mode)))
        return 0
    output "tee" text status

/-- How much of a text is meant: so many lines or bytes, counted from its other side if `turned`. -/
structure Amount where
  count : Nat := 10
  isBytes : Bool := false
  turned : Bool := false

/-- The first lines of a text with their ends, or its first bytes. -/
def front (isBytes : Bool) (n : Nat) (text : String) : String :=
  if isBytes then String.ofList (text.toList.take n)
  else
    let parts := text.splitOn "\n"
    if parts.length ≤ n then text else unlines (parts.take n)

/-- How many lines or bytes there are. -/
def size (isBytes : Bool) (text : String) : Nat :=
  if isBytes then text.length else (lines text).length

/-- What is left of a text without so many lines or bytes. -/
def without (isBytes : Bool) (n : Nat) (text : String) : String :=
  String.ofList (text.toList.drop (front isBytes n text).length)

def headOf (amount : Amount) (text : String) : String :=
  let n := if amount.turned then size amount.isBytes text - amount.count else amount.count
  front amount.isBytes n text

def tailOf (amount : Amount) (text : String) : String :=
  let n := if amount.turned then amount.count - 1 else size amount.isBytes text - amount.count
  without amount.isBytes n text

/-- The amount that options ask for, where a sign in front of a count turns its meaning. -/
def amount? (sign : Char) (a : Arguments) : Except String Amount :=
  let isBytes := a.has 'c'
  match if isBytes then a.value? 'c' else a.value? 'n' with
  | none => .ok {}
  | some word =>
    let turned := word.toList.head? = some sign
    let digits := if turned ∨ word.startsWith "-" then String.ofList (word.toList.drop 1) else word
    match count? digits with
    | some count => .ok { count, isBytes, turned }
    | none => .error ("invalid number of " ++ (if isBytes then "bytes" else "lines") ++ ": " ++
        quoted word)

/-- A count may stand directly behind a dash. -/
def spelledOut : List String → List String
  | word :: rest =>
    match word.toList with
    | '-' :: c :: cs =>
      (if c.isDigit then "-n" ++ String.ofList (c :: cs) else word) :: rest
    | _ => word :: rest
  | [] => []

/-- Shows a part of each of several files, with their names where there are several. -/
def partsOf (program : String) (sign : Char) (part : Amount → String → String)
    (words : List String) : Work Nat :=
  withArguments program { plain := "qv", valued := "nc" } 1 (spelledOut words) fun a => do
    match amount? sign a with
    | .error e =>
      Work.complain (program ++ ": " ++ e ++ "\n")
      return 1
    | .ok amount =>
      let (found, failed) ← inputs program a.operands fun path =>
        "cannot open " ++ quoted path ++ " for reading"
      let named := (1 < a.operands.length && !a.has 'q') || a.has 'v'
      let blocks := found.map fun (path, text) =>
        let title := if path = "-" then "standard input" else path
        (if named then "==> " ++ title ++ " <==\n" else "") ++ part amount text
      output program ((if named then "\n" else "").intercalate blocks) (if failed then 1 else 0)

def head : List String → Work Nat := partsOf "head" '-' headOf

def tail : List String → Work Nat := partsOf "tail" '+' tailOf

/-- Words between blanks. -/
def wordCount (cs : List Char) : Nat :=
  (cs.foldl (fun (n, inside) c =>
    let blank := c = ' ' ∨ ('\t' ≤ c ∧ c ≤ '\r')
    if blank then (n, false) else if inside then (n, true) else (n + 1, true)) (0, false)).1

def wc (words : List String) : Work Nat :=
  withArguments "wc" { plain := "lwcm" } 1 words fun a => do
    let (found, failed) ← inputs "wc" a.operands shown
    let usual := a.options.isEmpty
    let counts (text : String) : List Nat :=
      let cs := text.toList
      (if usual ∨ a.has 'l' then [cs.count '\n'] else []) ++
        (if usual ∨ a.has 'w' then [wordCount cs] else []) ++
        (if a.has 'm' then [(Text.Raw.toText text).length] else []) ++
        (if usual ∨ a.has 'c' then [cs.length] else [])
    let rows := found.map fun (path, text) => (path, counts text)
    let total := rows.foldl (fun sums (_, row) =>
      if sums.isEmpty then row else List.zipWith (· + ·) sums row) []
    let bytes := found.foldl (fun n (_, text) => n + text.length) 0
    let width :=
      if (total.length ≤ 1 ∧ a.operands.length ≤ 1) ∨ found.isEmpty then 1
      else if a.operands.isEmpty ∨ a.operands.contains "-" then 7
      else (toString bytes).length
    let line (row : List Nat) (name : String) : String :=
      " ".intercalate (row.map fun n => aligned width (toString n)) ++
        (if name = "" then "" else " " ++ name) ++ "\n"
    let all := rows.map fun (path, row) => line row (if a.operands.isEmpty then "" else path)
    let last := if 1 < a.operands.length then line total "total" else ""
    output "wc" (String.join all ++ last) (if failed then 1 else 0)

end ModemBench.Utility
