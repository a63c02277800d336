import ModemBench.Plan.Failure
import ModemBench.Sequence.Run
/-!
Plans: a selection with the commands it stands for. A plan is made before anything on the host is
touched; running it makes the host ready, opens the link, drops what is pending and sends.
-/

namespace ModemBench

structure Plan where
  selection : Selection
  commands : List Command

/-- The report of a plan, under the names of what was selected. -/
structure Summary where
  family : String
  label : String
  port : String
  report : Report
deriving Repr, DecidableEq

namespace Plan

def make (family : Nat) (case? : Option Nat) (settings : Settings) : Except Failure Plan :=
  match Selection.ofIndices family case? with
  | .error e => .error (.usage e)
  | .ok selection => .ok ⟨selection, selection.commands settings.parameters⟩

def run (plan : Plan) (settings : Settings) (patience : Nat) : Talk Failure Summary := do
  let selection := plan.selection
  Dialogue.perform (.note (.selected selection.family selection.label plan.commands.length))
  match ← Dialogue.perform (.prepare settings.serial.port) with
  | .error e => throw (.preparation e)
  | .ok () =>
    match ← Dialogue.perform (.connect settings.serial settings.logging.verbose) with
    | .error e => throw (.link e)
    | .ok line =>
      line.discard.adapt Failure.link
      let report ← (Sequence.run line settings.pacing.options patience plan.commands).adapt
        Failure.interrupted
      pure ⟨selection.family.name, selection.label, line.port, report⟩

end Plan

end ModemBench
