import ModemBench.Bench.Shell.Builtin.Basic
import ModemBench.Bench.Shell.Lookup
import ModemBench.Bench.Utility.Rights
/-!
Commands on the folder that a shell works in, and on the rights of files that it makes.
-/

namespace ModemBench.Shell.Builtin

/-- Where a path leads from a folder if all parts of it were folders. -/
def nominal (folder : Place) (path : String) : Place :=
  (Disk.parts path).foldl (fun place part =>
    if part = "" ∨ part = "." then place
    else if part = ".." then place.dropLast
    else place ++ [part]) (if path.startsWith "/" then [] else folder)

/-- Whether a path is looked for below other folders. -/
def isFree (path : String) : Bool :=
  !path.startsWith "/" && path ≠ "." && path ≠ ".." && !path.startsWith "./" &&
    !path.startsWith "../"

/-- Goes to a folder, and keeps in variables where that is and what was left. -/
def enter (path : String) : Act Bool := do
  let sh ← get
  let place := nominal sh.job.folder (Text.Raw.toText path)
  if (sh.job.disk.at? sh.job.folder).isNone ∧ !path.startsWith "/" then return false
  match sh.job.disk.at? place with
  | some .folder =>
    let before := (sh.value? "PWD").getD (Job.path sh.job.folder)
    set (sh.onJob fun j => { j with folder := place })
    Act.assign "OLDPWD" before
    Act.assign "PWD" (Job.path place)
    for name in ["OLDPWD", "PWD"] do
      Act.change name fun v => { v with exported := true }
    return true
  | _ => return false

def cd (words : List String) : Act Nat := do
  let (_, words) ← options "LP" "" words
  let sh ← get
  let target := match words with
    | [] => (sh.value? "HOME").getD ""
    | "-" :: _ => (sh.value? "OLDPWD").getD ""
    | word :: _ => word
  let tell : Act Unit := do Act.print (Job.path (← get).job.folder ++ "\n")
  let found? := if !isFree target then none
    else (candidates ((sh.value? "CDPATH").getD "") (if target = "" then "." else target)).find?
      fun path => match sh.job.find path with
        | .ok (_, .folder) => true
        | _ => false
  let path := found?.getD target
  unless ← enter path do Act.refuse ("can't cd to " ++ target)
  if words.head? = some "-" ∨ path ≠ target ∧ target ≠ "" then tell
  return 0

def pwd (words : List String) : Act Nat := do
  let _ ← options "LP" "" words
  Act.print (Job.path (← get).job.folder ++ "\n")
  return 0

/-- Rights as letters, for the owner, the group and all others. -/
def lettersOf (mode : Nat) : String :=
  let group (name : String) (bits : Nat) : String :=
    name ++ "=" ++ (if bits &&& 4 != 0 then "r" else "") ++ (if bits &&& 2 != 0 then "w" else "") ++
      (if bits &&& 1 != 0 then "x" else "")
  ",".intercalate [group "u" (mode / 64 % 8), group "g" (mode / 8 % 8), group "o" (mode % 8)]

/-- Tells or changes which rights files do not get when they are made. -/
def umask (words : List String) : Act Nat := do
  let (options, words) ← options "S" "" words
  let sh ← get
  let mask := sh.job.mask
  match words with
  | [] =>
    let digits := [mask / 512 % 8, mask / 64 % 8, mask / 8 % 8, mask % 8]
    let octal := String.join (digits.map toString)
    Act.print ((if options.isEmpty then octal else lettersOf (Rights.inverse mask)) ++ "\n")
    return 0
  | word :: _ =>
    if word.toList.head?.any Char.isDigit then
      match Rights.octal? word with
      | some mask => set (sh.onJob fun j => { j with mask := mask &&& 0o777 })
      | none => Act.refuse ("Illegal number: " ++ word)
    else
      match if word = "" then some mask else (Rights.changed? 0 (Rights.inverse mask) word) with
      | some mode =>
        let mask := if word = "" then mask else Rights.inverse mode
        set (sh.onJob fun j => { j with mask })
      | none => Act.refuse ("Illegal mode: " ++ word)
    return 0

/-- Commands on folders and rights. -/
def ofPlaces : List (String × Builtin) := [
  ("cd", { run := fun _ _ _ words => cd words }),
  ("chdir", { run := fun _ _ _ words => cd words }),
  ("pwd", { run := fun _ _ _ words => pwd words }),
  ("umask", { run := fun _ _ _ words => umask words }),
  ("ulimit", {
    run := fun _ _ _ _ => do
      Act.print "unlimited\n"
      return 0 })]

end ModemBench.Shell.Builtin
