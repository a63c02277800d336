import ModemBench.Bench.Shell.Glob
import ModemBench.Bench.Format.Escape
import ModemBench.Bench.Utility.Input
/-!
Programs that work on the characters of lines: they put others in place of them, cut parts out,
turn lines round, or count upwards.
-/

namespace ModemBench.Utility

/-- All characters of raw text. -/
def allCharacters : List Char := (List.range 256).map Char.ofNat

/-- The characters that a description stands for: ranges, classes, and others as they are. -/
def described : (fuel : Nat) → List Char → Except String (List Char)
  | 0, _ | _ + 1, [] => .ok []
  | fuel + 1, cs => do
    match cs with
    | '[' :: ':' :: rest =>
      let name := String.ofList (rest.takeWhile (· != ':'))
      match rest.drop name.length, Glob.classes.lookup name with
      | ':' :: ']' :: left, some kind =>
        let more ← described fuel left
        .ok (allCharacters.filter kind ++ more)
      | ':' :: ']' :: _, none => .error ("invalid character class " ++ quoted name)
      | _, _ => plainly fuel cs
    | _ => plainly fuel cs
where
  one : List Char → Char × List Char
    | '\\' :: rest => Format.escape rest
    | c :: rest => (c, rest)
    | [] => ('\x00', [])
  plainly (fuel : Nat) (cs : List Char) : Except String (List Char) := do
    let (first, left) := one cs
    match left with
    | '-' :: d :: more =>
      let (last, left) := one (d :: more)
      if last < first then
        .error ("range-endpoints of " ++ quoted (String.ofList [first, '-', last]) ++
          " are in reverse collating sequence order")
      else
        let rest ← described fuel left
        .ok (allCharacters.filter (fun c => first ≤ c && c ≤ last) ++ rest)
    | _ =>
      let rest ← described fuel left
      .ok (first :: rest)

/-- One of several characters beside each other that are alike and of a kind. -/
def squeezed (kind : Char → Bool) (cs : List Char) : List Char :=
  cs.foldr (fun c rest => if rest.head? = some c ∧ kind c then rest else c :: rest) []

def tr (words : List String) : Work Nat :=
  withArguments "tr" { plain := "dscCt", first := true } 1 words fun a => do
    let set (word : String) : Except String (List Char) := described (word.length + 1) word.toList
    match a.operands with
    | [] => missingOperand "tr" 1
    | first :: others =>
      if others.isEmpty ∧ !a.has 'd' ∧ !a.has 's' then
        return ← misuse "tr" ("missing operand after " ++ quoted first ++
          "\nTwo strings must be given when translating.") 1
      match set first, set (others.headD "") with
      | .error e, _ | _, .error e =>
        Work.complain ("tr: " ++ e ++ "\n")
        return 1
      | .ok first, .ok second =>
        let from_ := if a.has 'c' ∨ a.has 'C' then
          allCharacters.filter (!first.contains ·) else first
        let text := ((← Work.readAll 0).getD "").toList
        let text :=
          if a.has 'd' then text.filter (!from_.contains ·)
          else if others.isEmpty then text
          else text.map fun c =>
            match from_.reverse.idxOf? c with
            | some i => second.getD (from_.length - 1 - i) (second.getLastD c)
            | none => c
        let last := if others.isEmpty then from_ else second
        let text := if a.has 's' then squeezed last.contains text else text
        output "tr" (String.ofList text) 0

/-- Whether a list of numbers and ranges has a number in it. -/
def covered? (list : String) : Option (Nat → Bool) := do
  let first (m : String) : Option Nat := if m = "" then some 1 else count? m
  let last (n : String) : Option (Option Nat) := if n = "" then some none else (count? n).map some
  let ranges ← (list.splitOn ",").mapM fun part =>
    match part.splitOn "-" with
    | [n] => (count? n).map fun n => (n, some n)
    | [m, n] =>
      match first m, last n with
      | some m, some n => if part = "-" then none else some (m, n)
      | _, _ => none
    | _ => none
  if ranges.any fun (m, _) => m == 0 then none
  else some fun i => ranges.any fun (m, n) => m ≤ i && n.all (i ≤ ·)

def cut (words : List String) : Work Nat :=
  withArguments "cut" { plain := "sn", valued := "bcfd", names := [("complement", 'v')] } 1 words
    fun a => do
      match ["f", "b", "c"].findSome? fun kind =>
          (a.value? (kind.toList.headD 'f')).map (kind, ·) with
      | none =>
        misuse "cut" "you must specify a list of bytes, characters, or fields" 1
      | some (kind, list) =>
        match covered? list with
        | none =>
          misuse "cut" ((if kind = "f" then "invalid field value " else
            "invalid byte/character position ") ++ quoted list) 1
        | some covers =>
          let covers (i : Nat) : Bool := covers (i + 1) != a.has 'v'
          let mark := (a.value? 'd').getD "\t"
          let part (line : String) : Option String :=
            if kind ≠ "f" then
              some (String.ofList (((line.toList.zipIdx).filter fun (_, i) => covers i).map (·.1)))
            else
              let fields := line.splitOn mark
              if fields.length ≤ 1 then (if a.has 's' then none else some line)
              else some (mark.intercalate ((fields.zipIdx.filter fun (_, i) => covers i).map (·.1)))
          let (found, failed) ← inputs "cut" a.operands shown
          let all := found.flatMap fun (_, text) => lines text
          output "cut" (unlines (all.filterMap part)) (if failed then 1 else 0)

def rev (words : List String) : Work Nat :=
  withArguments "rev" { plain := "" } 1 words fun a => do
    let (found, failed) ← inputs "rev" a.operands fun path => "cannot open " ++ path
    let turned (line : String) : String :=
      Text.Raw.ofText (String.ofList (Text.Raw.toText line).toList.reverse)
    output "rev" (unlines ((found.flatMap fun (_, text) => lines text).map turned))
      (if failed then 1 else 0)

/-- Numbers from one to another, by steps. -/
def counted (first step last : Int) : List Int :=
  let count := if step = 0 then 0 else ((last - first) / step + 1).toNat
  (List.range count).map fun i => first + step * (i : Nat)

def seq (words : List String) : Work Nat := do
  let (separator, wide, words) := options words
  let number? (word : String) : Option Int := word.toInt?
  match words.mapM number? with
  | none =>
    let bad := (words.find? fun word => (number? word).isNone).getD ""
    misuse "seq" ("invalid floating point argument: " ++ quoted bad) 1
  | some numbers =>
    let range? := match numbers with
      | [last] => some (counted 1 1 last)
      | [first, last] => some (counted first 1 last)
      | [first, step, last] => some (counted first step last)
      | _ => none
    match range? with
    | none => missingOperand "seq" 1
    | some range =>
      let numerals := range.map toString
      let width := if wide then (numerals.map (·.length)).foldl max 0 else 0
      let padded := numerals.map fun s =>
        String.ofList (List.replicate (width - s.length) '0') ++ s
      if padded.isEmpty then return 0
      output "seq" (separator.intercalate padded ++ "\n") 0
where
  options : List String → String × Bool × List String
    | "-s" :: text :: rest => (text, false, rest)
    | "-w" :: rest => ("\n", true, rest)
    | words => ("\n", false, words)

end ModemBench.Utility
