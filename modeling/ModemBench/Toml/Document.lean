import ModemBench.Toml.Value
/-!
TOML documents: statements, one a line, and the table they build.
-/

namespace ModemBench.Toml

inductive Statement where
  | table (path : List String)
  | tables (path : List String)
  | assign (path : List String) (value : Tree)

/-- A header closed by the same brackets that opened it. -/
def header? (cs : List Char) : Option (Statement × List Char) :=
  match cs with
  | '[' :: '[' :: rest => do
    let (path, left) ← key? rest
    let left ← (mark? ']' left).bind (mark? ']')
    some (.tables path, left)
  | '[' :: rest => do
    let (path, left) ← key? rest
    let left ← mark? ']' left
    some (.table path, left)
  | _ => none

def assignment? (cs : List Char) : Option (Statement × List Char) := do
  let (path, left) ← key? cs
  let left ← mark? '=' left
  let (t, left) ← value? depthLimit (skipBlanks left)
  some (.assign path t, left)

/-- The statements of a document; `fuel` bounds its lines. -/
def statements? : Nat → List Char → Option (List Statement)
  | 0, _ => none
  | fuel + 1, cs =>
    match skipBlanks cs with
    | [] => some []
    | cs =>
      match endLine? cs with
      | some left => statements? fuel left
      | none => do
        let (s, left) ← header? cs <|> assignment? cs
        let left ← endLine? left
        (s :: ·) <$> statements? fuel left

/-- Adds statements to `root`; values go to the table that `here` leads to. -/
def build? : List String → Entries → List Statement → Option Entries
  | _, root, [] => some root
  | _, root, .table path :: rest => do
    build? path (← root.declare? path.dropLast (path.getLastD "")) rest
  | _, root, .tables path :: rest => do
    build? path (← root.extend? path.dropLast (path.getLastD "")) rest
  | here, root, .assign path t :: rest => do
    let add := fun _ (entries : Entries) => entries.assign? path.dropLast (path.getLastD "") t
    build? here (← root.within? false add here .named) rest

/-- A document as a table. A byte order mark may stand before it. -/
def parse? (text : String) : Option Tree :=
  let cs := match text.toList with
    | '\uFEFF' :: rest => rest
    | cs => cs
  (statements? (cs.length + 1) cs).bind fun statements =>
    (build? [] [] statements).map fun root => .table (entryTrees root)

end ModemBench.Toml
