import ModemBench.Bench.Utility.Input
/-!
Programs that put lines in order, or leave out those that repeat the one before.
-/

namespace ModemBench.Utility

/-- The number at the front of a line, in thousandths, which is nothing where there is none. -/
def leading (line : String) : Int :=
  let (negative, cs) := match line.toList.dropWhile fun c => c == ' ' || c == '\t' with
    | '-' :: rest => (true, rest)
    | cs => (false, cs)
  let whole := cs.takeWhile Char.isDigit
  let places := match cs.drop whole.length with
    | '.' :: rest => (rest.takeWhile Char.isDigit ++ ['0', '0', '0']).take 3
    | _ => ['0', '0', '0']
  let n := (whole ++ places).foldl (fun n c => n * 10 + (c.toNat - '0'.toNat)) 0
  if negative then -n else n

/-- A part of a line from one field to another, both counted from one. -/
def fieldsOf (separator : Option Char) (first : Nat) (last : Option Nat) (line : String) :
    String :=
  let parts := match separator with
    | some c => (line.splitOn (String.ofList [c]))
    | none => blankFields line.toList
  let glue := match separator with
    | some c => String.ofList [c]
    | none => ""
  let parts := parts.drop (first - 1)
  glue.intercalate (match last with
    | some n => parts.take (n + 1 - first)
    | none => parts)
where
  /-- Fields with the blanks in front of them. -/
  blankFields (cs : List Char) : List String :=
    let step := fun (c : Char) (fields : List (List Char)) =>
      match fields with
      | [] => [[c]]
      | [] :: rest => [c] :: rest
      | (d :: ds) :: rest =>
        if c ≠ ' ' ∧ c ≠ '\t' ∧ (d = ' ' ∨ d = '\t') then [c] :: (d :: ds) :: rest
        else (c :: d :: ds) :: rest
    (cs.foldr step []).map String.ofList

/-- What two lines are compared by: parts of them, and in which ways. -/
structure Key where
  first : Nat := 1
  last : Option Nat := none
  letters : String := ""

/-- A key as it is asked for: fields with letters behind them. -/
def key? (word : String) : Option Key :=
  let part (cs : List Char) : Option (Nat × String) :=
    let digits := cs.takeWhile Char.isDigit
    let rest := (cs.drop digits.length).dropWhile fun c => c == '.' || c.isDigit
    (count? (String.ofList digits)).map (·, String.ofList rest)
  match word.splitOn "," with
  | [first] => (part first.toList).map fun (n, letters) => { first := n, letters }
  | [first, last] =>
    match part first.toList, part last.toList with
    | some (m, a), some (n, b) => some { first := m, last := some n, letters := a ++ b }
    | _, _ => none
  | _ => none

def lowered (s : String) : String := String.ofList (s.toList.map Char.toLower)

/-- How two lines are ordered by a key. -/
def compareBy (separator : Option Char) (k : Key) (usual : String) (a b : String) : Ordering :=
  let letters := if k.letters = "" then usual else k.letters
  let has (letter : Char) : Bool := letters.contains letter
  let part (line : String) : String :=
    let text := fieldsOf separator k.first k.last line
    let text := if has 'b' then String.ofList (text.toList.dropWhile (· == ' ')) else text
    if has 'f' then String.ofList (text.toList.map Char.toUpper) else text
  let order := if has 'n' then compare (leading (part a)) (leading (part b))
    else compare (part a) (part b)
  if has 'r' then order.swap else order

def sort (words : List String) : Work Nat :=
  withArguments "sort" { plain := "nrufbsm", valued := "kto" } 2 words fun a => do
    let usual := String.ofList ("nrfb".toList.filter a.has)
    let separator := (a.value? 't').bind (·.toList.head?)
    let asked := (a.options.filter (·.1 == 'k')).map (·.2)
    match asked.mapM key? with
    | none =>
      Work.complain ("sort: -: invalid field specification " ++ quoted (",".intercalate asked) ++
        "\n")
      return 2
    | some keys =>
      let keys := if keys.isEmpty then [{ letters := usual }] else keys
      let order (x y : String) : Ordering :=
        keys.foldl (fun o k => o.then (compareBy separator k usual x y)) .eq
      let whole (x y : String) : Ordering :=
        if a.has 's' ∨ a.has 'u' then order x y
        else (order x y).then (if a.has 'r' then compare y x else compare x y)
      let (found, failed) ← inputs "sort" a.operands fun path => "cannot read: " ++ shown path
      if failed then return 2
      let all := (found.flatMap fun (_, text) => lines text).mergeSort fun x y => whole x y ≠ .gt
      let kept := if !a.has 'u' then all
        else all.foldr (fun line rest =>
          match rest with
          | next :: more => if order line next = .eq then line :: more else line :: rest
          | [] => [line]) []
      match a.value? 'o' with
      | none => output "sort" (unlines kept) 0 2
      | some path =>
        match (← get).writable path with
        | .error e =>
          let _ ← report "sort" ("open failed: " ++ path) e
          return 2
        | .ok place =>
          modify fun j => j.onDisk (·.put place
            (.file (Text.Raw.toBytes (unlines kept).toList) (0o666 &&& (0o777 - j.mask))))
          return 0

/-- Lines that are alike and stand beside each other, counted. -/
def runs (alike : String → String → Bool) (ls : List String) : List (String × Nat) :=
  ls.foldr (fun line rest =>
    match rest with
    | (next, n) :: more => if alike line next then (line, n + 1) :: more else (line, 1) :: rest
    | [] => [(line, 1)]) []

def uniq (words : List String) : Work Nat :=
  withArguments "uniq" { plain := "cdui", valued := "fsw" } 1 words fun a => do
    let (found, failed) ← inputs "uniq" (a.operands.take 1) shown
    if failed then return 1
    let alike (x y : String) : Bool := if a.has 'i' then lowered x == lowered y else x == y
    let all := runs alike (found.flatMap fun (_, text) => lines text)
    let kept := all.filter fun (_, n) => (!a.has 'd' || 1 < n) && (!a.has 'u' || n == 1)
    let all := kept.map fun (line, n) =>
      if a.has 'c' then aligned 7 (toString n) ++ " " ++ line else line
    output "uniq" (unlines all) 0

end ModemBench.Utility
