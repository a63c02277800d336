import ModemBench.Toml.Entries
import ModemBench.Toml.Number
/-!
TOML values: strings, numbers, moments, truth values, lists and tables on one line.
-/

namespace ModemBench.Toml

/-- The rest of a list. A comma may follow the last item. -/
def items? (item? : List Char → Option (Tree × List Char)) :
    Nat → List Char → Option (List Tree × List Char)
  | 0, _ => none
  | fuel + 1, cs =>
    match skipLines false cs with
    | ']' :: left => some ([], left)
    | cs => do
      let (t, left) ← item? cs
      match skipLines false left with
      | ',' :: rest =>
        let (ts, left) ← items? item? fuel rest
        some (t :: ts, left)
      | ']' :: left => some ([t], left)
      | _ => none

/-- The pairs of a table on one line, to be added to `entries`. No comma follows the last. -/
def pairs? (item? : List Char → Option (Tree × List Char)) :
    Nat → Entries → List Char → Option (Entries × List Char)
  | 0, _, _ => none
  | fuel + 1, entries, cs => do
    let (path, left) ← key? cs
    let left ← mark? '=' left
    let (t, left) ← item? (skipBlanks left)
    let entries ← entries.assign? path.dropLast (path.getLastD "") t
    match skipBlanks left with
    | ',' :: rest => pairs? item? fuel entries rest
    | '\x7d' :: left => some (entries, left)
    | _ => none

def inlineTable? (item? : List Char → Option (Tree × List Char)) (cs : List Char) :
    Option (Tree × List Char) :=
  match skipBlanks cs with
  | '\x7d' :: left => some (.table [], left)
  | cs => (pairs? item? (cs.length + 1) [] cs).map fun (entries, left) =>
      (.table (entryTrees entries), left)

def scalar? : List Char → Option (Tree × List Char)
  | 't' :: 'r' :: 'u' :: 'e' :: left => some (.bool true, left)
  | 'f' :: 'a' :: 'l' :: 's' :: 'e' :: left => some (.bool false, left)
  | cs => ((string? cs).map fun (s, left) => (.text s, left)) <|> number? cs

/-- A value with lists and tables at most `depth` deep. -/
def value? : Nat → List Char → Option (Tree × List Char)
  | depth, '[' :: rest =>
    match depth with
    | 0 => none
    | depth + 1 => (items? (value? depth) (rest.length + 1) rest).map fun (ts, left) =>
        (.list ts, left)
  | depth, '\x7b' :: rest =>
    match depth with
    | 0 => none
    | depth + 1 => inlineTable? (value? depth) rest
  | _, cs => scalar? cs

end ModemBench.Toml
