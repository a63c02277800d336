import ModemBench.Command
import ModemBench.Port.Error
import ModemBench.Sequence.Verdict
/-!
What a run of a command sequence leaves behind. Positions count from one.
-/

namespace ModemBench

/-- How a command ended. -/
inductive Ending where
  | success
  | failure
  | timedOut
deriving Repr, DecidableEq

def Verdict.ending : Verdict → Ending
  | success => .success
  | failure => .failure

structure Record where
  command : Command
  ending : Ending
  /-- How often the command was sent. -/
  attempts : Nat
  /-- Whole milliseconds from before the first write to the settling read, in a 64-bit word. -/
  elapsed : UInt64
  /-- What the last attempt received. -/
  response : String
deriving Repr, DecidableEq

inductive Status where
  | completed (total : Nat)
  | failed (position total : Nat)
  | timedOut (position total : Nat)
deriving Repr, DecidableEq

namespace Status

def message : Status → String
  | completed total => s!"all {total} command(s) succeeded"
  | failed position total => s!"sequence failed at command {position} of {total}"
  | timedOut position total =>
    s!"no terminal token within deadline at command {position} of {total}"

def isCompleted : Status → Bool
  | completed _ => true
  | _ => false

end Status

structure Report where
  status : Status
  succeeded : Nat
  records : List Record
deriving Repr, DecidableEq

namespace Report

def isSuccess (r : Report) : Bool := r.status.isCompleted

/-- Commands put on the wire, a resent one counted once. -/
def transmitted (r : Report) : Nat := r.records.length

def exitCode (r : Report) : Nat := if r.isSuccess then 0 else 1

end Report

/-- The link failed during the command at `position`; `records` holds those before it. -/
structure Interruption where
  position : Nat
  total : Nat
  records : List Record
  cause : LinkError
deriving Repr, DecidableEq

def Interruption.message (i : Interruption) : String :=
  s!"transport failed at command {i.position} of {i.total}: {i.cause.message}"

end ModemBench
