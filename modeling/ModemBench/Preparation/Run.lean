import ModemBench.Dialogue
/-!
Preparation: programs run on the host, one after another, before the link is opened. The first
that cannot be started or does not succeed ends it. Empty steps are passed over.
-/

namespace ModemBench.Preparation

def runStep (port program : String) (arguments : List String) : Talk PreparationError Unit := do
  let step := " ".intercalate (program :: arguments)
  Dialogue.perform (.note (.preparing step port))
  match ← Dialogue.perform (.start program arguments) with
  | .error reason => throw (.notStarted program reason)
  | .ok status => unless status.isSuccess do throw (.failed step status.text)

def runSteps (port : String) : List (List String) → Talk PreparationError Unit
  | [] => pure ()
  | [] :: rest => runSteps port rest
  | (program :: arguments) :: rest => do
    runStep port program arguments
    runSteps port rest

def run (steps : List (List String)) (port : String) : Talk PreparationError Unit := do
  runSteps port steps
  unless steps.isEmpty do
    Dialogue.perform (.note (.prepared steps.length port))

/-- What settings ask for: nothing at all where they list no step. -/
def ofSettings (steps : List (List String)) (port : String) : Talk PreparationError Unit :=
  if steps.isEmpty then pure () else run steps port

end ModemBench.Preparation
