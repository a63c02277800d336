import ModemBench.Sequence.Report
import ModemBench.Suite.Family
import ModemBench.Text.Quoted
/-!
Log notes: what a run says about itself while it goes on.
-/

namespace ModemBench

inductive Level where
  | debug
  | info
  | warn
  | error
deriving Repr, DecidableEq

def Level.name : Level → String
  | debug => "DEBUG"
  | info => "INFO"
  | warn => "WARN"
  | error => "ERROR"

/-- The part of the program that a note comes from; `wire` is the raw traffic. -/
inductive Channel where
  | sequence
  | line
  | wire
  | plan
  | preparation
  | program
deriving Repr, DecidableEq

/-- The name that filters know a part of the program by. -/
def Channel.path : Channel → String
  | sequence => "at_test_driver::sequencer"
  | line => "at_test_driver::session"
  | wire => "at_test::wire"
  | plan => "at_test_driver::runner"
  | preparation => "at_test_driver::provision"
  | program => "at_test"

inductive Note where
  | starting (total : Nat) (port : String)
  | sending (command : Command) (attempt : Nat)
  | awaiting (command : Command)
  | retrying (command : Command)
  | settled (record : Record)
  | finished (succeeded total : Nat) (status : Status)
  | opened (port : String) (baud : UInt32) (readTimeout : UInt64)
  | sent (bytes : Nat)
  | wireOut (command : Command)
  | wireIn (chunk : Bytes)
  | selected (family : Family) (label : String) (commands : Nat)
  | preparing (step : String) (port : String)
  | prepared (steps : Nat) (port : String)
  | gaveUp (message : String)
deriving Repr, DecidableEq

/-- The value of a field of a note. -/
inductive Detail where
  | number (n : Nat)
  | flag (b : Bool)
  | text (s : String)
deriving Repr, DecidableEq

def Detail.shown : Detail → String
  | number n => toString n
  | flag b => if b then "true" else "false"
  | text s => s

namespace Note

def channel : Note → Channel
  | starting .. | sending .. | awaiting _ | retrying _ | settled _ | finished .. => .sequence
  | opened .. | sent _ => .line
  | wireOut _ | wireIn _ => .wire
  | selected .. => .plan
  | preparing .. | prepared .. => .preparation
  | gaveUp _ => .program

def level : Note → Level
  | sending .. | awaiting _ | sent _ | wireOut _ | wireIn _ | preparing .. => .debug
  | retrying _ => .warn
  | gaveUp _ => .error
  | finished _ _ status => if status.isCompleted then .info else .warn
  | starting .. | settled _ | opened .. | selected .. | prepared .. => .info

def message? : Note → Option String
  | starting .. => some "starting sequence"
  | sending .. | awaiting _ => none
  | retrying _ => some "no terminal token before deadline, retrying once"
  | settled _ => some "response"
  | finished _ _ status => some status.message
  | opened .. => some "serial link open"
  | sent _ => some "command sent"
  | wireOut command => some (">> " ++ command.line)
  | wireIn chunk => some ("<< " ++ Text.escaped (Text.decode chunk))
  | selected .. => some "resolved test selection"
  | preparing .. => some "provisioning"
  | prepared .. => some "provisioning done"
  | gaveUp message => some message

def endingName : Ending → String
  | .success => "Success"
  | .failure => "Failure"
  | .timedOut => "TimedOut"

def fields : Note → List (String × Detail)
  | starting total port => [("total", .number total), ("port", .text port)]
  | sending command attempt =>
    [("command", .text command.line), ("attempt", .number attempt), ("state", .text "Sending")]
  | awaiting command => [("command", .text command.line), ("state", .text "AwaitingResponse")]
  | retrying command => [("command", .text command.line)]
  | settled r =>
    [("command", .text r.command.line), ("ok", .flag (r.ending == .success)),
      ("state", .text (endingName r.ending)), ("elapsed_ms", .number r.elapsed.toNat)]
  | finished succeeded total _ => [("succeeded", .number succeeded), ("total", .number total)]
  | opened port baud readTimeout =>
    [("port", .text port), ("baud", .number baud.toNat),
      ("read_timeout_ms", .number readTimeout.toNat)]
  | sent bytes => [("bytes", .number bytes)]
  | wireOut _ | wireIn _ | gaveUp _ => []
  | selected family label commands =>
    [("family", .text family.display), ("case", .text label), ("commands", .number commands)]
  | preparing step port => [("command", .text step), ("port", .text port)]
  | prepared steps port => [("steps", .number steps), ("port", .text port)]

/-- The names of what a note holds. Its message is one of them. -/
def fieldNames (n : Note) : List String :=
  (if n.message?.isSome then ["message"] else []) ++ n.fields.map (·.1)

/-- A note as a line of a log. -/
def text (n : Note) : String :=
  let fields := n.fields.map fun (name, value) => name ++ "=" ++ value.shown
  " ".intercalate (n.level.name :: n.message?.toList ++ fields) ++ "\n"

end Note

end ModemBench
