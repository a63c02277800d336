import ModemBench.Settings.Basic
import ModemBench.Settings.Error
import ModemBench.Text.Numeral
import ModemBench.Text.Quoted
/-!
Environment variables that replace single settings. They are looked up in a fixed order; the
first one that cannot be read ends the overlay, and what was set before it stays set.
-/

namespace ModemBench

/-- Letter case and white space around the name do not matter. -/
def TimeoutPolicy.ofText? (text : String) : Except String TimeoutPolicy :=
  let name := String.ofList ((Text.trimmed text.toList).map Char.toLower)
  if name = "abort" then .ok .abort
  else if name = "retry_once" ∨ name = "retry-once" then .ok .retryOnce
  else .error s!"unknown timeout policy {Text.quoted name} (expected abort or retry_once)"

/-- One variable: its name, and how its value changes the settings or why it cannot. -/
structure Override where
  name : String
  apply : String → Settings → Except String Settings

namespace Override

/-- A whole number of at most `limit`, with white space around it allowed. -/
def number (limit : Nat) (complaint value : String) : Except String Nat :=
  match Text.numeral? limit (Text.trim value) with
  | some n => .ok n
  | none => .error s!"{complaint}: {Text.quoted value}"

def isYes (value : String) : Bool :=
  value.toList.map Char.toLower == "true".toList || value == "1"

def max32 : Nat := 4294967295

def max64 : Nat := 18446744073709551615

def port : Override where
  name := "AT_TEST_SERIAL_PORT"
  apply v s := .ok { s with serial.port := v }

def baud : Override where
  name := "AT_TEST_SERIAL_BAUD"
  apply v s := (number max32 "Invalid baud rate" v).map
    fun n => { s with serial.baud := .ofNat n }

def readTimeout : Override where
  name := "AT_TEST_SERIAL_READ_TIMEOUT_MS"
  apply v s := (number max64 "Invalid timeout" v).map
    fun n => { s with serial.readTimeout := .ofNat n }

def responseTimeout : Override where
  name := "AT_TEST_SEQUENCER_RESPONSE_TIMEOUT_MS"
  apply v s := (number max64 "Invalid timeout" v).map
    fun n => { s with pacing.responseTimeout := .ofNat n }

def interCommandDelay : Override where
  name := "AT_TEST_SEQUENCER_INTER_COMMAND_DELAY_MS"
  apply v s := (number max64 "Invalid delay" v).map
    fun n => { s with pacing.interCommandDelay := .ofNat n }

def onTimeout : Override where
  name := "AT_TEST_SEQUENCER_ON_TIMEOUT"
  apply v s := (TimeoutPolicy.ofText? v).map fun policy => { s with pacing.onTimeout := policy }

def verbose : Override where
  name := "AT_TEST_LOGGING_VERBOSE"
  apply v s := .ok { s with logging.verbose := isYes v }

def level : Override where
  name := "AT_TEST_LOGGING_LEVEL"
  apply v s := .ok { s with logging.level := v }

def all : List Override :=
  [port, baud, readTimeout, responseTimeout, interCommandDelay, onTimeout, verbose, level]

/-- The settings reached, and the error that stopped there. -/
def overlay (lookup : String → Option String) :
    List Override → Settings → Settings × Option SettingsError
  | [], s => (s, none)
  | o :: rest, s =>
    match lookup o.name with
    | none => overlay lookup rest s
    | some value =>
      match o.apply value s with
      | .ok s => overlay lookup rest s
      | .error message => (s, some (.badVariable o.name message))

end Override

/-- Every override of the environment. -/
def Settings.overlay (s : Settings) (lookup : String → Option String) :
    Settings × Option SettingsError :=
  Override.overlay lookup Override.all s

end ModemBench
