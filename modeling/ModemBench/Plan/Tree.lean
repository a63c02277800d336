import ModemBench.Plan.Run
import ModemBench.Settings.Codec
import ModemBench.Tree.Json
/-!
Plans, records and summaries as value trees, in the order in which they are written.
-/

namespace ModemBench

def Plan.tree (plan : Plan) : Tree :=
  .table [
    ("selection", .table [
      ("family", .text plan.selection.family.key),
      ("case", (plan.selection.case?.map Tree.nat).getD .null)]),
    ("commands", .list (plan.commands.map fun c => .text c.line))]

def Ending.key : Ending → String
  | success => "success"
  | failure => "failure"
  | timedOut => "timed_out"

def Record.tree (r : Record) : Tree :=
  .table [
    ("command", .text r.command.line),
    ("state", .text r.ending.key),
    ("attempts", .nat r.attempts),
    ("elapsed_ms", .nat r.elapsed.toNat),
    ("response", .text r.response)]

def Status.tree : Status → Tree
  | completed total => .table [("status", .text "completed"), ("total", .nat total)]
  | failed position total =>
    .table [("status", .text "failed"), ("at", .nat position), ("total", .nat total)]
  | timedOut position total =>
    .table [("status", .text "timed_out"), ("at", .nat position), ("total", .nat total)]

def Report.entries (r : Report) : List (String × Tree) := [
  ("status", r.status.tree),
  ("succeeded", .nat r.succeeded),
  ("records", .list (r.records.map Record.tree))]

def Report.tree (r : Report) : Tree := .table r.entries

/-- The fields of the report stand beside those of the summary. -/
def Summary.tree (s : Summary) : Tree :=
  .table ([("family", .text s.family), ("case", .text s.label), ("port", .text s.port)] ++
    s.report.entries)

end ModemBench
