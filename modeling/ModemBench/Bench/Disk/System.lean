import ModemBench.Text.Utf8
/-!
What a system has before anything is stored in it: a few folders, programs and devices.
-/

namespace ModemBench

inductive Stored where
  | folder
  /-- The bits of `mode` are the rights to read, write and start the file. -/
  | file (bytes : Bytes) (mode : Nat := 0o644)
  /-- A program of the system, which may be at places of other names. -/
  | program (name : String)
  /-- A serial device. -/
  | device
  /-- The device that takes everything and gives nothing. -/
  | nowhere
deriving Repr, DecidableEq

/-- Whether something may be started as a program, by anyone. -/
def Stored.runs : Stored → Bool
  | program _ => true
  | file _ mode => mode &&& 0o111 != 0
  | folder | device | nowhere => false

namespace System

/-- The programs that are no part of a shell. -/
def programs : List String := [
  "[", "basename", "bash", "cat", "chmod", "cmp", "cp", "cut", "dash", "dirname", "echo", "env",
  "expr", "false", "grep", "head", "ls", "mkdir", "mv", "nice", "nohup", "printenv", "printf",
  "pwd", "readlink", "realpath", "rev", "rm", "rmdir", "sed", "seq", "sh", "sleep", "sort", "sync",
  "tail", "tee", "test", "timeout", "touch", "tr", "true", "uniq", "wc", "which",
  "whoami", "xargs"]

/-- The folder that a bench works in. -/
def work : List String := ["tmp", "bench"]

def folders : List (List String) := [
  ["bin"], ["dev"], ["etc"], ["home"], ["lib"], ["mnt"], ["opt"], ["proc"], ["root"], ["run"],
  ["sbin"], ["srv"], ["sys"], ["tmp"], work, ["usr"], ["var"], ["usr", "bin"], ["usr", "lib"],
  ["usr", "local"], ["usr", "local", "bin"], ["usr", "sbin"], ["var", "tmp"]]

def entries : List (List String × Stored) :=
  folders.map (·, .folder) ++
    programs.flatMap (fun name =>
      [(["bin", name], .program name), (["usr", "bin", name], .program name)]) ++
    ["null", "stdin", "stdout", "stderr", "tty", "zero"].map (fun name =>
      (["dev", name], .nowhere)) ++
    [(["etc", "passwd"], .file (Text.encode "root:x:0:0:root:/root\n"))]

/-- Where programs are looked for unless something else is asked for. -/
def path : String := "/usr/local/sbin:/usr/local/bin:/usr/sbin:/usr/bin:/sbin:/bin"

end System

end ModemBench
