import ModemBench.Bench.Shell.Calls
/-!
Where the channels of a command lead: to files, to texts in the script, or where other channels
lead.
-/

namespace ModemBench.Shell

open Script (Redirect Flow)

/-- A redirection with its target worked out. -/
inductive Aim where
  | path (channel : Nat) (flow : Flow) (text : String)
  | channel (channel : Nat) (other : Option Nat)
  | text (channel : Nat) (word : Script.Word)

/-- What is wrong with a channel that is none is told of as if it were wrong with the script, where
the script has been read up to. -/
def refuseChannel {α : Type} : Act α := do
  modify fun sh => { sh with line := sh.reading }
  Act.refuse "Syntax error: Bad fd number"

/-- Works out the target of a redirection. Texts in the script are left as they are. -/
def aim (capture : Capture) (r : Redirect) : Act Aim := do
  match r with
  | .document channel number =>
    let sh ← get
    return .text channel ((sh.documents.lookup number).getD [])
  | .file channel .copy target =>
    let text ← expandText capture target
    match text.toList with
    | ['-'] => return .channel channel none
    | [c] =>
      if c.isDigit then return .channel channel (some (c.toNat - '0'.toNat)) else refuseChannel
    | _ => refuseChannel
  | .file channel flow target => return .path channel flow (← expandText capture target)

/-- Why a file cannot be opened. Where it would have been made, what is missing is its folder. -/
def reason (e : SystemError) (making : Bool) : String :=
  match e with
  | .missing | .throughFile => if making then "Directory nonexistent" else "No such file"
  | _ => e.text

/-- Channels that have paths. -/
def channelOf? (path : String) : Option Nat :=
  if path = "/dev/stdin" then some 0
  else if path = "/dev/stdout" then some 1
  else if path = "/dev/stderr" then some 2
  else
    let folders := ["/dev/fd/", "/proc/self/fd/"]
    folders.findSome? fun folder =>
      if folder.toList.isPrefixOf path.toList then
        (String.ofList (path.toList.drop folder.length)).toNat?
      else none

/-- Opens a file for a channel. It is made or emptied where it is written to. -/
def openPath (channel : Nat) (flow : Flow) (path : String) : Act Unit := do
  let sh ← get
  let j := sh.job
  let making := [Flow.write, .append, .clobber, .readWrite].contains flow
  let failed (e : SystemError) : Act Unit :=
    Act.refuse ((if making then "cannot create " else "cannot open ") ++ path ++ ": " ++
      reason e making)
  let writes := flow != .read
  let reads := flow == .read || flow == .readWrite
  let attach (stream : Stream) (j : Job) : Act Unit :=
    let appends := flow == Flow.append
    set { sh with job := j.openOn channel { stream, appends, reads, writes } }
  match (channelOf? path).bind fun n => j.channels.lookup n with
  | some n => set { sh with job := j.connect channel (some n) }
  | none =>
    if !making then
      match j.find path with
      | .error e => failed e
      | .ok (place, .file _ _) | .ok (place, .program _) | .ok (place, .folder) =>
        attach (.file place) j
      | .ok _ => attach .nowhere j
    else match j.writable path with
      | .error e => failed e
      | .ok place =>
        match j.disk.at? place with
        | some .nowhere | some .device => attach .nowhere j
        | some (.file bytes mode) =>
          if flow == .write ∧ sh.isSet 'C' then failed .present
          else
            let kept := if flow == .append || flow == .readWrite then bytes else []
            attach (.file place) (j.onDisk (·.put place (.file kept mode)))
        | _ =>
          let mode := 0o666 &&& ((0o777 : Nat) ^^^ j.mask)
          attach (.file place) (j.onDisk (·.put place (.file [] mode)))

def follow (capture : Capture) (a : Aim) : Act Unit := do
  let sh ← get
  match a with
  | .path channel flow path => openPath channel flow path
  | .channel channel none => set (sh.onJob (·.connect channel none))
  | .channel channel (some other) =>
    match sh.job.channels.lookup other with
    | some n => set (sh.onJob (·.connect channel (some n)))
    | none => Act.refuse (toString other ++ ": " ++ SystemError.badDescriptor.text)
  | .text channel word =>
    let text ← expandDocument capture word
    let sh ← get
    let (buffer, machine) := sh.job.machine.addBuffer (Text.Raw.toBytes text.toList)
    let job := { sh.job with machine }.openOn channel { stream := .buffer buffer, reads := true }
    set { sh with job }

/-- Sends channels elsewhere, and says whether that was possible. What comes to nothing in the
words of redirections is worse. -/
def redirect (capture : Capture) (rs : List Redirect) : Act Bool := do
  let aims ← rs.mapM (aim capture)
  let before := (← get).job.channels
  try
    aims.forM (follow capture)
    return true
  catch _ =>
    modify fun sh => { sh with job.channels := before }
    return false

/-- Does something with channels sent elsewhere, which lead back afterwards whatever happens. -/
def redirected (capture : Capture) (rs : List Redirect) (action : Act Unit) : Act Unit := do
  let before := (← get).job.channels
  if ← redirect capture rs then
    try action
    finally modify fun sh => { sh with job.channels := before }
  else Act.become 2

end ModemBench.Shell
