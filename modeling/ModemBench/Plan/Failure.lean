import ModemBench.Preparation.Status
import ModemBench.Sequence.Report
import ModemBench.Settings.Error
import ModemBench.Suite.Selection
/-!
What ends a test run before there is a report.
-/

namespace ModemBench

inductive Failure where
  | usage (e : UsageError)
  | settings (e : SettingsError)
  | preparation (e : PreparationError)
  | link (e : LinkError)
  | interrupted (e : Interruption)
deriving Repr, DecidableEq

namespace Failure

def message : Failure → String
  | usage e => "usage error: " ++ e.message
  | settings e => e.message
  | preparation e => "provisioning failed: " ++ e.message
  | link e => e.message
  | interrupted e => e.message

/-- Two for a selection that does not exist, three for trouble with anything around the run. -/
def exitCode : Failure → Nat
  | usage _ => 2
  | settings _ | preparation _ | link _ | interrupted _ => 3

end Failure

end ModemBench
