import ModemBench.Tree
/-!
Tables under construction. A table remembers how it came about, which decides what may still be
added to it.
-/

namespace ModemBench.Toml

/-- How a table came about: under its own header, on the way to a header, or by a dotted key. -/
inductive Origin where
  | named
  | passed
  | dotted
deriving Repr, DecidableEq

inductive Node where
  | value (tree : Tree)
  | table (origin : Origin) (entries : List (String × Node))
  /-- A list of tables, the newest apart. -/
  | tables (older : List (List (String × Node))) (newest : List (String × Node))

abbrev Entries := List (String × Node)

namespace Entries

/-- Replaces the node at `key`, or adds one. -/
def alter? (key : String) (f : Option Node → Option Node) : Entries → Option Entries
  | [] => (f none).map fun n => [(key, n)]
  | (k, n) :: rest =>
    if k = key then (f (some n)).map fun n => (k, n) :: rest
    else (alter? key f rest).map ((k, n) :: ·)

/-- Changes the table that `path` leads to; tables missing on the way are made. A dotted key does
not lead through a table that has a header of its own, and no path leads through a value. -/
def within? (dotted : Bool) (f : Origin → Entries → Option Entries) :
    List String → Origin → Entries → Option Entries
  | [], origin, entries => f origin entries
  | key :: path, _, entries =>
    let made := if dotted then Origin.dotted else .passed
    entries.alter? key fun
      | none => (within? dotted f path made []).map (.table made)
      | some (.value _) => none
      | some (.table origin entries) =>
        if dotted ∧ origin = .named then none
        else (within? dotted f path origin entries).map (.table origin)
      | some (.tables older newest) => (within? dotted f path .named newest).map (.tables older)

/-- Adds a value under a dotted key. -/
def assign? (path : List String) (key : String) (value : Tree) (entries : Entries) :
    Option Entries :=
  within? true (fun origin entries =>
    if origin = .dotted ↔ path = [] then none
    else entries.alter? key fun
      | none => some (.value value)
      | some _ => none) path .named entries

/-- Opens the table of a header. -/
def declare? (path : List String) (key : String) (entries : Entries) : Option Entries :=
  within? false (fun _ entries => entries.alter? key fun
    | none => some (.table .named [])
    | some (.table .passed entries) => some (.table .named entries)
    | some _ => none) path .named entries

/-- Opens one more table of a list. -/
def extend? (path : List String) (key : String) (entries : Entries) : Option Entries :=
  within? false (fun _ entries => entries.alter? key fun
    | none => some (.tables [] [])
    | some (.tables older newest) => some (.tables (older ++ [newest]) [])
    | some _ => none) path .named entries

end Entries

mutual

def Node.tree : Node → Tree
  | .value t => t
  | .table _ entries => .table (entryTrees entries)
  | .tables older newest => .list (tableTrees older ++ [.table (entryTrees newest)])

def entryTrees : List (String × Node) → List (String × Tree)
  | [] => []
  | (key, n) :: rest => (key, n.tree) :: entryTrees rest

def tableTrees : List (List (String × Node)) → List Tree
  | [] => []
  | entries :: rest => .table (entryTrees entries) :: tableTrees rest

end

end ModemBench.Toml
