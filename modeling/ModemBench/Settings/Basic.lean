import ModemBench.Text.Blank
/-!
The settings of a test run, section by section, with their built-in values.
-/

namespace ModemBench

inductive DataBits where
  | seven
  | eight
deriving Repr, DecidableEq, Inhabited

inductive Parity where
  | none
  | odd
  | even
deriving Repr, DecidableEq, Inhabited

inductive StopBits where
  | one
  | two
deriving Repr, DecidableEq, Inhabited

inductive FlowControl where
  | none
  | software
  | hardware
deriving Repr, DecidableEq, Inhabited

/-- The serial link. `readTimeout` bounds one read, in milliseconds. -/
structure Serial where
  port : String := "/dev/ttyAMA0"
  baud : UInt32 := 38400
  readTimeout : UInt64 := 500
  dataBits : DataBits := .eight
  parity : Parity := .none
  stopBits : StopBits := .one
  flowControl : FlowControl := .none
deriving Repr, DecidableEq, Inhabited

/-- Wi-Fi security as the test firmware numbers it. -/
inductive Security where
  | openNetwork
  | wpa2
deriving Repr, DecidableEq, Inhabited

/-- The values put into commands. Nothing here is checked or escaped before it is sent. -/
structure Parameters where
  ssid : String := "halow_testing"
  country : String := "US"
  security : Security := .wpa2
  password : String := "12345678"
  txPower : UInt8 := 17
  dhcp : Bool := false
  staticIp : String := "192.168.200.12"
  remoteIp : String := "192.168.200.1"
  count : UInt32 := 10
  interval : UInt32 := 500
deriving Repr, DecidableEq, Inhabited

/-- What to do when a command is not answered before its deadline. -/
inductive TimeoutPolicy where
  | abort
  | retryOnce
deriving Repr, DecidableEq, Inhabited

/-- Times in milliseconds. A response timeout of zero waits for ever. -/
structure Pacing where
  responseTimeout : UInt64 := 30000
  interCommandDelay : UInt64 := 1000
  onTimeout : TimeoutPolicy := .abort
deriving Repr, DecidableEq, Inhabited

inductive LogFormat where
  | json
  | pretty
  | compact
deriving Repr, DecidableEq, Inhabited

structure Logging where
  verbose : Bool := false
  level : String := "info"
  format : LogFormat := .pretty
deriving Repr, DecidableEq, Inhabited

structure Settings where
  serial : Serial := {}
  parameters : Parameters := {}
  pacing : Pacing := {}
  logging : Logging := {}
  /-- Programs with their arguments, run before the link is opened. -/
  preparation : List (List String) := []
deriving Repr, DecidableEq, Inhabited

/-- Why settings make a run meaningless. -/
inductive Flaw where
  | blankPort
  | zeroBaud
  | zeroReadTimeout
  | namelessStep
deriving Repr, DecidableEq

namespace Flaw

def key : Flaw → String
  | blankPort => "serial.port"
  | zeroBaud => "serial.baud"
  | zeroReadTimeout => "serial.read_timeout_ms"
  | namelessStep => "provision.commands"

def message : Flaw → String
  | blankPort => "must not be empty"
  | zeroBaud | zeroReadTimeout => "must be non-zero"
  | namelessStep => "every entry needs a program name"

end Flaw

/-- A step needs a program, and its name has to show something. -/
def namesProgram : List String → Bool
  | [] => false
  | program :: _ => !Text.isBlankText program

/-- The first flaw, if there is one. -/
def Settings.flaw? (s : Settings) : Option Flaw :=
  if Text.isBlankText s.serial.port then some .blankPort
  else if s.serial.baud = 0 then some .zeroBaud
  else if s.serial.readTimeout = 0 then some .zeroReadTimeout
  else if !s.preparation.all namesProgram then some .namelessStep
  else none

end ModemBench
