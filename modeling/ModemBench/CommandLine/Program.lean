import ModemBench.CommandLine.Arguments
import ModemBench.CommandLine.Help
import ModemBench.Plan.Tree
import ModemBench.Preparation.Run
import ModemBench.Settings.Load
import ModemBench.Settings.LogFilter
/-!
The program behind the command line. It loads the settings, makes a plan, and shows it or runs it;
the value of the dialogue is the exit code.
-/

namespace ModemBench.CommandLine

/-- The settings of a file or of the usual places, overlaid by what the command line says. -/
def loadSettings (a : Arguments) (around : Surroundings) : Except SettingsError Settings := do
  let loaded ← match a.config with
    | some path => Settings.loadFrom around path
    | none => Settings.load around
  let s := loaded.settings
  let s := { s with
    serial.port := a.port.getD s.serial.port
    serial.baud := (a.baud.map UInt32.ofNat).getD s.serial.baud
    logging.verbose := s.logging.verbose || a.verbose }
  Settings.check s
  pure s

/-- The host is made ready by the steps of the settings, and the link is opened on the device. -/
def services (s : Settings) : (q : Ask) → Dialogue q.Answer
  | .prepare port => Preparation.ofSettings s.preparation port
  | .connect serial verbose => openLine serial verbose
  | q => .perform q

def showPlan (plan : Plan) (json : Bool) : String :=
  if json then plan.tree.json 0 ++ "\n"
  else String.join (plan.commands.map fun c => c.line ++ "\n")

def showSummary (s : Summary) (json : Bool) : String :=
  if json then s.tree.json 0 ++ "\n"
  else
    let status := s.report.status.message
    s!"{s.family} {s.label} on {s.port}: {status} ({s.report.succeeded} succeeded)\n"

/-- Prints the notes that a filter lets through. -/
def logged (filter : LogFilter) : (q : Ask) → Dialogue q.Answer
  | .note n => do
    Dialogue.perform (.note n)
    if filter.shows n then Dialogue.perform (.complain n.text)
  | q => .perform q

def runPlan (a : Arguments) (s : Settings) (patience : Nat) (plan : Plan) : Dialogue Nat := do
  match ← (plan.run s patience).expand (services s) with
  | .error e =>
    Dialogue.perform (.note (.gaveUp e.message))
    pure e.exitCode
  | .ok summary =>
    Dialogue.perform (.print (showSummary summary a.json))
    pure summary.report.exitCode

def warn : List String → Dialogue Unit
  | [] => pure ()
  | complaint :: rest => do
    Dialogue.perform (.complain (complaint ++ "\n"))
    warn rest

/-- What is done once the settings are there. -/
def runLoaded (a : Arguments) (s : Settings) (patience : Nat) : Dialogue Nat :=
  match Plan.make (a.family.getD 0) a.case? s with
  | .error e => do
    Dialogue.perform (.complain s!"error: {e.message}\n\n{Suite.catalogue}\n")
    pure e.exitCode
  | .ok plan =>
    if a.dryRun then do
      Dialogue.perform (.print (showPlan plan a.json))
      pure 0
    else runPlan a s patience plan

/-- The exit code where a log filter stops the program. -/
def brokenFilter : Nat := 101

def runArguments (a : Arguments) (around : Surroundings) (patience : Nat) : Dialogue Nat := do
  if a.list then
    Dialogue.perform (.print Suite.catalogue)
    pure 0
  else match loadSettings a around with
    | .error e =>
      Dialogue.perform (.complain s!"error: {e.message}\n")
      pure (Failure.settings e).exitCode
    | .ok s =>
      match s.logging.filter around with
      | .error _ =>
        Dialogue.perform (.complain "error: log filter cut inside a character\n")
        pure brokenFilter
      | .ok (filter, complaints) =>
        warn complaints
        (runLoaded a s patience).expand (logged filter)

/-- Words of the command line to an exit code. -/
def program (words : List String) (around : Surroundings) (patience : Nat) : Dialogue Nat :=
  match invocation words with
  | .run a => runArguments a around patience
  | .help long => do
    Dialogue.perform (.print (helpText long))
    pure 0
  | .version => do
    Dialogue.perform (.print versionText)
    pure 0
  | .refused => do
    Dialogue.perform (.complain s!"error: bad arguments\n\n{usageLine}")
    pure 2

end ModemBench.CommandLine
