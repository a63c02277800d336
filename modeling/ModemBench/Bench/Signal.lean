import ModemBench.Preparation.Status
/-!
Signals: their names and numbers, and how the end of a process by one of them is told.
-/

namespace ModemBench.Signal

/-- The greatest number of a signal. -/
def last : Nat := 64

def kill : Nat := 9

/-- The first signal that has no meaning of its own. -/
def firstOwn : Nat := 34

/-- The name of a signal, without the letters that all names begin with. Some have none. -/
def name (n : Nat) : String :=
  if n = 0 then "EXIT"
  else if n = 16 ∨ n = 32 ∨ n = 33 then toString n
  else if n < 32 then
    let full := ExitStatus.signalNames.getD (n - 1) ""
    String.ofList (full.toList.drop 3)
  else if n = firstOwn then "RTMIN"
  else if n ≤ 49 then "RTMIN+" ++ toString (n - firstOwn)
  else if n < last then "RTMAX-" ++ toString (last - n)
  else "RTMAX"

/-- The number of a signal, given as such or by name, in letters of either case. The name of the
end of a script has the number zero. -/
def number? (text : String) : Option Nat :=
  if !text.isEmpty ∧ text.toList.all Char.isDigit then (text.toNat?).filter (· ≤ last)
  else (List.range (last + 1)).find? fun n => name n = text.toUpper

/-- Signals that do nothing to a process that does not ask for them. -/
def isHarmless (n : Nat) : Bool := [0, 17, 18, 20, 21, 22, 23, 28].contains n

def descriptions : List String := [
  "Hangup", "Interrupt", "Quit", "Illegal instruction", "Trace/breakpoint trap", "Aborted",
  "Bus error", "Floating point exception", "Killed", "User defined signal 1",
  "Segmentation fault", "User defined signal 2", "Broken pipe", "Alarm clock", "Terminated",
  "Stack fault", "Child exited", "Continued", "Stopped (signal)", "Stopped",
  "Stopped (tty input)", "Stopped (tty output)", "Urgent I/O condition",
  "CPU time limit exceeded", "File size limit exceeded", "Virtual timer expired",
  "Profiling timer expired", "Window changed", "I/O possible", "Power failure",
  "Bad system call"]

/-- What a shell says of a process that a signal has ended, where it says anything. -/
def obituary? (n : Nat) : Option String :=
  if n = 2 ∨ n = 13 then none
  else some (descriptions.getD (n - 1) ("Real-time signal " ++ toString (n - 34)))

end ModemBench.Signal
