/-!
How programs started on the host end, and how a preparation step fails.
-/

namespace ModemBench

inductive ExitStatus where
  | code (n : Nat)
  | signal (n : Nat) (dumped : Bool := false)
deriving Repr, DecidableEq

namespace ExitStatus

/-- The names of the signals, from the first. -/
def signalNames : List String := [
  "SIGHUP", "SIGINT", "SIGQUIT", "SIGILL", "SIGTRAP", "SIGABRT", "SIGBUS", "SIGFPE", "SIGKILL",
  "SIGUSR1", "SIGSEGV", "SIGUSR2", "SIGPIPE", "SIGALRM", "SIGTERM", "SIGSTKFLT", "SIGCHLD",
  "SIGCONT", "SIGSTOP", "SIGTSTP", "SIGTTIN", "SIGTTOU", "SIGURG", "SIGXCPU", "SIGXFSZ",
  "SIGVTALRM", "SIGPROF", "SIGWINCH", "SIGIO", "SIGPWR", "SIGSYS"]

def signalText (n : Nat) : String :=
  match ("" :: signalNames)[n]? with
  | none | some "" => s!"signal: {n}"
  | some name => s!"signal: {n} ({name})"

def text : ExitStatus → String
  | code n => s!"exit status: {n}"
  | signal n false => signalText n
  | signal n true => signalText n ++ " (core dumped)"

def isSuccess (s : ExitStatus) : Bool := s == code 0

end ExitStatus

inductive PreparationError where
  | notStarted (program reason : String)
  | failed (step status : String)
deriving Repr, DecidableEq

def PreparationError.message : PreparationError → String
  | notStarted program reason => "failed to start `" ++ program ++ "`: " ++ reason
  | failed step status => "`" ++ step ++ "` exited with " ++ status

end ModemBench
