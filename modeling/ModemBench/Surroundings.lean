import ModemBench.SystemError
import ModemBench.Text.Utf8
/-!
What a run finds around it: environment variables and files.
-/

namespace ModemBench

/-- What stands at a path, or why nothing can be found there. -/
inductive Sight where
  | absent (e : SystemError)
  | folder
  | file (bytes : Bytes)
  /-- Something that cannot be read. -/
  | closed (e : SystemError)
deriving Repr, DecidableEq

instance : Inhabited Sight := ⟨.absent .missing⟩

def Sight.exists : Sight → Bool
  | absent _ => false
  | folder | file _ | closed _ => true

structure Surroundings where
  /-- What the variables are set to, which need not be text. -/
  values : String → Option Bytes
  look : String → Sight

namespace Surroundings

/-- A variable with a value that is no text counts as one that is not set. -/
def env (around : Surroundings) (name : String) : Option String :=
  (around.values name).bind Text.ofBytes?

/-- Surroundings in which all that is set is text. -/
def ofTexts (texts : String → Option String) (look : String → Sight) : Surroundings :=
  ⟨fun name => (texts name).map Text.encode, look⟩

end Surroundings

/-- A path below `base`: one slash between them, none where `base` is empty or ends in one. -/
def joinPath (base rest : String) : String :=
  if base.isEmpty || base.toList.getLast? == some '/' then base ++ rest else base ++ "/" ++ rest

end ModemBench
