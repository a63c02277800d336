import ModemBench.Settings.Codec
import ModemBench.Settings.Override
import ModemBench.Surroundings
import ModemBench.Toml.Document
/-!
Where settings come from: the built-in values, overlaid by a file, overlaid by the environment.
The result is checked for flaws.
-/

namespace ModemBench.Settings

/-- TOML lets a record written as a list run over, and has no null: a tag without content has an
empty list or table after it. -/
def tomlDialect : Tree.Dialect where
  surplus := true
  contentless
    | .list [] | .table [] => true
    | _ => false

/-- JSON counts the values of a record and has null for a tag without content. -/
def jsonDialect : Tree.Dialect where
  surplus := false
  contentless
    | .null => true
    | _ => false

def ofToml? (text : String) : Option Settings :=
  (Toml.parse? text).bind (codec.ofTree? tomlDialect)

def readFile (around : Surroundings) (path : String) : Except ReadFault String :=
  if path.toList.contains '\x00' then .error .zeroInPath
  else match around.look path with
    | .absent e => .error (.refused e)
    | .folder => .error (.refused .isFolder)
    | .closed e => .error (.refused e)
    | .file bytes =>
      match Text.ofBytes? bytes with
      | some text => .ok text
      | none => .error .notText

def ofFile (around : Surroundings) (path : String) : Except SettingsError Settings :=
  match readFile around path with
  | .error fault => .error (.unreadable path fault)
  | .ok text =>
    match ofToml? text with
    | some s => .ok s
    | none => .error (.unparsable path)

def check (s : Settings) : Except SettingsError Unit :=
  match s.flaw? with
  | none => .ok ()
  | some flaw => .error (.invalid flaw.key flaw.message)

/-- Overlays the environment and checks the result. -/
def complete (around : Surroundings) (s : Settings) : Except SettingsError Settings :=
  match s.overlay around.env with
  | (_, some e) => .error e
  | (s, none) => (check s).map fun _ => s

/-- Settings and the file they come from, if there is one. -/
structure Loaded where
  source : Option String
  settings : Settings
deriving Repr, DecidableEq

def loadFrom (around : Surroundings) (path : String) : Except SettingsError Loaded := do
  let s ← complete around (← ofFile around path)
  pure ⟨some path, s⟩

def fileName : String := "at-test.toml"

/-- The folder of the user's settings. The home folder counts only where no other is named. -/
def userFolder? (around : Surroundings) : Option String :=
  match around.env "XDG_CONFIG_HOME" with
  | some folder => some folder
  | none => (around.env "HOME").map (joinPath · ".config")

/-- Where a settings file may be, best first. -/
def candidates (around : Surroundings) : List String :=
  (around.env "AT_TEST_CONFIG").toList ++ [fileName] ++
    (userFolder? around).toList.map fun folder => joinPath (joinPath folder "at-test") fileName

/-- The first candidate that exists. -/
def locate? (around : Surroundings) : Option String :=
  (candidates around).find? fun path => (around.look path).exists

def load (around : Surroundings) : Except SettingsError Loaded :=
  match locate? around with
  | some path => loadFrom around path
  | none => (complete around {}).map (⟨none, ·⟩)

end ModemBench.Settings
