import ModemBench.Bench.Shell.Builtin.Flow
import ModemBench.Bench.Shell.Builtin.Getopts
import ModemBench.Bench.Shell.Builtin.Names
import ModemBench.Bench.Shell.Builtin.Output
import ModemBench.Bench.Shell.Builtin.Places
import ModemBench.Bench.Shell.Builtin.Signals
import ModemBench.Bench.Shell.Builtin.Variables
/-!
All commands that are parts of a shell.
-/

namespace ModemBench.Shell.Builtin

/-- The commands that do not tell of others. -/
def plain : List (String × Builtin) :=
  ofCourse ++ ofVariables ++ ofSignals ++ ofPlaces ++ ofOutput ++
    [("getopts", { run := fun _ _ _ words => getopts words })]

/-- Whether there is such a command, and whether it is special. -/
def special? (name : String) : Option Bool :=
  match plain.lookup name with
  | some b => some b.special
  | none =>
    if ["alias", "unalias", "hash", "type", "command"].contains name then some false else none

def find? (name : String) : Option Builtin :=
  (plain.lookup name).or ((ofNames special?).lookup name)

end ModemBench.Shell.Builtin
