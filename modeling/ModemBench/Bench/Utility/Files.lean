import ModemBench.Bench.Utility.Input
import ModemBench.Bench.Utility.Rights
/-!
Programs that make, copy, move, remove and mark files and folders.
-/

namespace ModemBench.Utility

/-- A path without the slashes at its end. -/
def bare (path : String) : String :=
  let cs := path.toList.reverse.dropWhile (· == '/')
  if cs.isEmpty then (if path = "" then "" else "/") else String.ofList cs.reverse

/-- What is after the last slash of a path. -/
def lastName (path : String) : String :=
  String.ofList ((bare path).toList.reverse.takeWhile (· != '/')).reverse

/-- A path below a folder. -/
def below (folder name : String) : String :=
  if folder.endsWith "/" then folder ++ name else folder ++ "/" ++ name

def put (place : Place) (stored : Stored) : Work Unit :=
  modify fun j => j.onDisk (·.put place stored)

/-- The rights of a new file. -/
def fresh (j : Job) : Nat := 0o666 &&& ((0o777 : Nat) ^^^ j.mask)

def touch (words : List String) : Work Nat :=
  withArguments "touch" { plain := "acfm", valued := "tdr" } 1 words fun a => do
    if a.operands.isEmpty then
      Work.complain "touch: missing file operand\nTry 'touch --help' for more information.\n"
      return 1
    forAll a.operands fun path => do
      let j ← get
      if j.exists? path then return 0
      match j.writable path with
      | .ok place =>
        unless a.has 'c' do put place (.file [] (fresh j))
        return 0
      | .error e => report "touch" ("cannot touch " ++ quoted path) e

/-- Makes a folder, and those above it if that is asked for. -/
def makeFolder (above : Bool) : (fuel : Nat) → String → Work Nat
  | 0, _ => return 1
  | fuel + 1, path => do
    let j ← get
    let failed (e : SystemError) : Work Nat :=
      report "mkdir" ("cannot create directory " ++ quoted path) e
    match j.find (bare path) with
    | .ok (_, .folder) => if above then return 0 else failed .present
    | .ok _ => failed .present
    | .error _ =>
      let parent := (bare path).toList.reverse.dropWhile (· != '/')
      if above ∧ !parent.isEmpty then
        let status ← makeFolder above fuel (String.ofList parent.reverse)
        if status ≠ 0 then return status
      match (← get).resolve (bare path) with
      | .ok place =>
        put place .folder
        return 0
      | .error e => failed e

def mkdir (words : List String) : Work Nat :=
  withArguments "mkdir" { plain := "pv", valued := "m", names := [("parents", 'p')] } 1 words
    fun a => do
      if a.operands.isEmpty then return ← missingOperand "mkdir" 1
      forAll a.operands fun path => makeFolder (a.has 'p') (path.length + 1) path

def rmdir (words : List String) : Work Nat :=
  withArguments "rmdir" { plain := "pv" } 1 words fun a => do
    if a.operands.isEmpty then return ← missingOperand "rmdir" 1
    forAll a.operands fun path => do
      let j ← get
      let failed (e : SystemError) : Work Nat :=
        report "rmdir" ("failed to remove " ++ quoted path) e
      match j.find path with
      | .error e => failed e
      | .ok (place, .folder) =>
        if !(j.disk.children place).isEmpty then return ← failed .notEmpty
        if lastName path = "." then return ← failed .badArgument
        modify fun j => j.onDisk (·.remove place)
        return 0
      | .ok _ => failed .throughFile

def rm (words : List String) : Work Nat :=
  withArguments "rm" { plain := "dfiIrRv", names := [("force", 'f'), ("recursive", 'r')] } 1 words
    fun a => do
      if a.operands.isEmpty then
        if a.has 'f' then return 0 else return ← missingOperand "rm" 1
      forAll a.operands fun path => do
        let j ← get
        let failed (e : SystemError) : Work Nat :=
          report "rm" ("cannot remove " ++ quoted path) e
        match j.find path with
        | .error e =>
          if a.has 'f' ∧ (e = .missing ∨ e = .throughFile) then return 0 else failed e
        | .ok (place, stored) =>
          let all := a.has 'r' || a.has 'R'
          if stored == .folder ∧ !all ∧ !a.has 'd' then failed .isFolder
          else if lastName path = "." ∨ lastName path = ".." then
            Work.complain ("rm: refusing to remove '.' or '..' directory: skipping " ++
              quoted path ++ "\n")
            return 1
          else if stored == .folder ∧ !all ∧ !(j.disk.children place).isEmpty then failed .notEmpty
          else if (j.disk.entries.lookup place).isNone then failed .denied
          else
            modify fun j => j.onDisk (·.remove place)
            return 0

/-- Where something goes: into a folder under its own name, or to a place of that name. -/
def destination (j : Job) (source target : String) : String :=
  match j.find target with
  | .ok (_, .folder) => below target (lastName source)
  | _ => target

/-- Does something for each of several sources with where it goes. -/
def towards (program : String) (operands : List String) (action : String → String → Work Nat) :
    Work Nat := do
  match operands.reverse with
  | [] =>
    Work.complain (program ++ ": missing file operand\nTry '" ++ program ++
      " --help' for more information.\n")
    return 1
  | [only] =>
    Work.complain (program ++ ": missing destination file operand after " ++ quoted only ++
      "\nTry '" ++ program ++ " --help' for more information.\n")
    return 1
  | target :: sources =>
    let j ← get
    let isFolder := match j.find target with
      | .ok (_, .folder) => true
      | _ => false
    if 1 < sources.length ∧ !isFolder then
      let e := match j.find target with
        | .ok _ => SystemError.throughFile
        | .error e => e
      report program ("target " ++ quoted target) e
    else forAll sources.reverse fun source => do action source (destination (← get) source target)

def mv (words : List String) : Work Nat :=
  withArguments "mv" { plain := "finuvT" } 1 words fun a =>
    towards "mv" a.operands fun source target => do
      let j ← get
      match j.find source, j.resolve (bare target) with
      | .error e, _ => report "mv" ("cannot stat " ++ quoted source) e
      | _, .error e => report "mv" ("cannot move " ++ quoted source ++ " to " ++ quoted target) e
      | .ok (place, stored), .ok goal =>
        if place = goal then
          Work.complain ("mv: " ++ quoted source ++ " and " ++ quoted target ++
            " are the same file\n")
          return 1
        else if place.isPrefixOf goal then
          Work.complain ("mv: cannot move " ++ quoted source ++ " to a subdirectory of itself, " ++
            quoted target ++ "\n")
          return 1
        else if a.has 'n' ∧ j.exists? target then return 0
        else if stored ≠ .folder ∧ j.disk.at? goal = some .folder then
          Work.complain ("mv: cannot overwrite directory " ++ quoted target ++
            " with non-directory\n")
          return 1
        else
          modify fun j => j.onDisk (·.move place goal)
          return 0

/-- Copies a file, or a folder with all that is in it. -/
def copy (all : Bool) : (fuel : Nat) → String → String → Work Nat
  | 0, _, _ => return 1
  | fuel + 1, source, target => do
    let j ← get
    match j.find source with
    | .error e => report "cp" ("cannot stat " ++ quoted source) e
    | .ok (place, .folder) =>
      if !all then
        Work.complain ("cp: -r not specified; omitting directory " ++ quoted source ++ "\n")
        return 1
      match j.resolve (bare target) with
      | .error e => report "cp" ("cannot create directory " ++ quoted target) e
      | .ok goal =>
        unless j.disk.at? goal = some .folder do put goal .folder
        forAll (j.disk.children place) fun name =>
          copy all fuel (below source (Text.Raw.ofText name)) (below target (Text.Raw.ofText name))
    | .ok (place, stored) =>
      match j.writable target with
      | .error e => report "cp" ("cannot create regular file " ++ quoted target) e
      | .ok goal =>
        if place = goal then
          Work.complain ("cp: " ++ quoted source ++ " and " ++ quoted target ++
            " are the same file\n")
          return 1
        let copied := match stored, j.disk.at? goal with
          | .file bytes _, some (.file _ mode) => .file bytes mode
          | .file bytes mode, _ => .file bytes (mode &&& ((0o777 : Nat) ^^^ j.mask))
          | .device, _ | .nowhere, _ => .file [] (fresh j)
          | _, _ => stored
        put goal copied
        return 0

def cp (words : List String) : Work Nat :=
  withArguments "cp" { plain := "adfipnrRuvT", names := [("recursive", 'r')] } 1 words fun a =>
    towards "cp" a.operands fun source target => do
      if a.has 'n' ∧ (← get).exists? target then return 0
      copy (a.has 'r' || a.has 'R' || a.has 'a') ((← get).disk.entries.length + 2) source target

/-- A change of rights that begins with a dash is no option. -/
def chmod (words : List String) : Work Nat := do
  let words := words.filter fun word =>
    !(["-R", "-v", "-f", "-c", "--"].contains word)
  match words with
  | [] => missingOperand "chmod" 1
  | [change] =>
    Work.complain ("chmod: missing operand after " ++ quoted change ++
      "\nTry 'chmod --help' for more information.\n")
    return 1
  | change :: paths =>
    let j ← get
    if (Rights.asked? j.mask 0 change).isNone then
      Work.complain ("chmod: invalid mode: " ++ quoted change ++
        "\nTry 'chmod --help' for more information.\n")
      return 1
    forAll paths fun path => do
      match (← get).find path with
      | .error e => report "chmod" ("cannot access " ++ quoted path) e
      | .ok (place, .file bytes mode) =>
        put place (.file bytes ((Rights.asked? j.mask mode change).getD mode))
        return 0
      | .ok _ => return 0

/-- The names in a folder as they are listed. -/
def listed (a : Arguments) (place : Place) (j : Job) : List String :=
  let names := (j.disk.children place).map Text.Raw.ofText
  let names := if a.has 'a' then [".", ".."] ++ names
    else if a.has 'A' then names
    else names.filter fun name => name.toList.head? != some '.'
  if a.has 'r' then names.reverse else names

def ls (words : List String) : Work Nat :=
  withArguments "ls" { plain := "1aAdfrRt" } 2 words fun a => do
    let operands := if a.operands.isEmpty then ["."] else a.operands.mergeSort (· ≤ ·)
    let status ← forAll operands fun path => do
      match (← get).find path with
      | .error e =>
        let _ ← report "ls" ("cannot access " ++ quoted path) e
        return 2
      | .ok _ => return 0
    let j ← get
    let found := operands.filterMap fun path => (j.find path).toOption.map (path, ·)
    let (folders, files) := found.partition fun (_, _, stored) => stored == .folder && !a.has 'd'
    let blocks := folders.map fun (path, place, _) =>
      let names := String.join ((listed a place j).map (· ++ "\n"))
      if operands.length = 1 then names else path ++ ":\n" ++ names
    let blocks := "\n".intercalate blocks
    let gap := if files.isEmpty ∨ folders.isEmpty then "" else "\n"
    output "ls" (unlines (files.map (·.1)) ++ gap ++ blocks) status 2

end ModemBench.Utility
