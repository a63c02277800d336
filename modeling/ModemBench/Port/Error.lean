/-!
What can go wrong with a port, and with the link that a session holds on it.
-/

namespace ModemBench

inductive IoKind where
  | timedOut
  | wouldBlock
  | brokenPipe
  | notFound
  | permissionDenied
  | interrupted
  | unexpectedEof
  | connectionReset
  | invalidData
  | writeZero
  | other
deriving Repr, DecidableEq

def IoKind.text : IoKind → String
  | timedOut => "timed out"
  | wouldBlock => "operation would block"
  | brokenPipe => "broken pipe"
  | notFound => "entity not found"
  | permissionDenied => "permission denied"
  | interrupted => "operation interrupted"
  | unexpectedEof => "unexpected end of file"
  | connectionReset => "connection reset"
  | invalidData => "invalid data"
  | writeZero => "write zero"
  | other => "other error"

inductive PortError where
  | notFound (text : String)
  | busy (text : String)
  | io (kind : IoKind) (text : String)
  | config (text : String)
  | serial (text : String)
deriving Repr, DecidableEq

namespace PortError

def ofKind (kind : IoKind) : PortError := .io kind kind.text

def message : PortError → String
  | notFound text => "Serial port not found: " ++ text
  | busy text => "Serial port busy or inaccessible: " ++ text
  | io _ text => "I/O error: " ++ text
  | config text => "Configuration error: " ++ text
  | serial text => "Serial port error: " ++ text

/-- Whether the error only says that nothing came in time. -/
def isReadTimeout : PortError → Bool
  | io .timedOut _ | io .wouldBlock _ => true
  | _ => false

end PortError

/-- A failure of the link. Each of them ends the run. -/
inductive LinkError where
  | openFailed (port : String) (source : PortError)
  | writeFailed (port : String) (source : PortError)
  /-- The port took none of the bytes left: `written` of `total` had been taken. -/
  | writeStalled (port : String) (written total : Nat)
  | readFailed (port : String) (source : PortError)
deriving Repr, DecidableEq

def LinkError.message : LinkError → String
  | openFailed port source => s!"failed to open {port}: {source.message}"
  | writeFailed port source => s!"write to {port} failed: {source.message}"
  | writeStalled port written total => s!"write to {port} stalled after {written} of {total} bytes"
  | readFailed port source => s!"read from {port} failed: {source.message}"

end ModemBench
