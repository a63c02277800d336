import ModemBench.SystemError
/-!
Why settings cannot be had, and what is said about it.
-/

namespace ModemBench

/-- Why a file cannot be read as text. -/
inductive ReadFault where
  | refused (e : SystemError)
  | notText
  /-- No path holds a character of code zero. -/
  | zeroInPath
deriving Repr, DecidableEq

def ReadFault.message : ReadFault → String
  | refused e => e.message
  | notText => "stream did not contain valid UTF-8"
  | zeroInPath => "file name contained an unexpected NUL byte"

inductive SettingsError where
  | unreadable (path : String) (fault : ReadFault)
  | unparsable (path : String)
  | invalid (key message : String)
  | badVariable (name message : String)
deriving Repr, DecidableEq

def SettingsError.message : SettingsError → String
  | unreadable path fault => s!"Failed to read configuration file '{path}': {fault.message}"
  | unparsable path => s!"Failed to parse configuration '{path}'"
  | invalid key message => s!"Invalid configuration value for '{key}': {message}"
  | badVariable name message => s!"Failed to parse environment variable '{name}': {message}"

end ModemBench
