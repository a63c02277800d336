import Mathlib
import ModemBench.Bench.World
import ModemBench.Proofs.Verbosity
/-!
The log of a run. Its entries follow the commands one by one and say of each what its record says;
a run that breaks off leaves the entries of the last command unfinished. Where traffic is echoed,
each transmission and each chunk has an entry more, and that is all the difference it makes.
-/

namespace ModemBench

/-- What a log shows of a note. -/
structure Entry where
  level : Level
  message? : Option String
  fields : List (String × Detail)
deriving Repr, DecidableEq

namespace Entry

def starting (total : Nat) (port : String) : Entry where
  level := .info
  message? := some "starting sequence"
  fields := [("total", .number total), ("port", .text port)]

def sending (c : Command) (attempt : Nat) : Entry where
  level := .debug
  message? := none
  fields := [("command", .text c.line), ("attempt", .number attempt), ("state", .text "Sending")]

def awaiting (c : Command) : Entry where
  level := .debug
  message? := none
  fields := [("command", .text c.line), ("state", .text "AwaitingResponse")]

def retrying (c : Command) : Entry where
  level := .warn
  message? := some "no terminal token before deadline, retrying once"
  fields := [("command", .text c.line)]

/-- The name of the state that a command has ended in. -/
def state : Ending → String
  | .success => "Success"
  | .failure => "Failure"
  | .timedOut => "TimedOut"

def response (r : Record) : Entry where
  level := .info
  message? := some "response"
  fields := [("command", .text r.command.line), ("ok", .flag (decide (r.ending = .success))),
    ("state", .text (state r.ending)), ("elapsed_ms", .number r.elapsed.toNat)]

def finished (succeeded total : Nat) (status : Status) : Entry where
  level := match status with
    | .completed _ => .info
    | .failed .. | .timedOut .. => .warn
  message? := some status.message
  fields := [("succeeded", .number succeeded), ("total", .number total)]

/-- A line of raw traffic. -/
def traffic (text : String) : Entry := ⟨.debug, some text, []⟩

end Entry

/-- The entries of the transmissions of a command, of which there are two if it is sent again. -/
def Command.story (c : Command) (again : Bool) : List Entry :=
  .sending c 1 :: .awaiting c ::
    if again then [.retrying c, .sending c 2, .awaiting c] else []

/-- The entries of a command that got a record. -/
def Record.story (r : Record) : List Entry :=
  r.command.story (r.attempts = 2) ++ [.response r]

def Note.entry (n : Note) : Entry := ⟨n.level, n.message?, n.fields⟩

namespace Note

theorem entry_settled (r : Record) : (settled r).entry = .response r := by
  have hok : (r.ending == .success) = decide (r.ending = .success) := rfl
  have hstate : endingName r.ending = Entry.state r.ending := by
    cases r.ending <;> rfl
  simp [entry, Entry.response, level, message?, fields, hok, hstate]

theorem entry_finished (succeeded total : Nat) (status : Status) :
    (finished succeeded total status).entry = .finished succeeded total status := by
  cases status <;> rfl

end Note

namespace Exchange

/-- The entry that an exchange is for this part of the program, if it is one. -/
def entry? (channel : Channel) : Exchange → Option Entry
  | ⟨.note n, _⟩ => if n.channel = channel then some n.entry else none
  | _ => none

/-- What is echoed of an exchange: the line of a transmission that begins, and a chunk with
something in it. -/
def echo? : Exchange → Option Entry
  | ⟨.note (.sending c _), _⟩ => some (.traffic (">> " ++ c.line))
  | ⟨.read _, .ok chunk⟩ =>
    if chunk = [] then none else some (.traffic ("<< " ++ Text.escaped (Text.decode chunk)))
  | _ => none

end Exchange

/-- The entries of one part of the program, in order. -/
def logOf (channel : Channel) (es : List Exchange) : List Entry :=
  ((Exchange.notes es).filter (·.channel = channel)).map Note.entry

@[simp] theorem logOf_nil (channel : Channel) : logOf channel [] = [] := rfl

@[simp] theorem logOf_append (channel : Channel) (es es' : List Exchange) :
    logOf channel (es ++ es') = logOf channel es ++ logOf channel es' := by
  simp [logOf, Exchange.notes]

@[simp] theorem logOf_cons (channel : Channel) (e : Exchange) (es : List Exchange) :
    logOf channel (e :: es) = (e.entry? channel).toList ++ logOf channel es := by
  have hone : logOf channel [e] = (e.entry? channel).toList := by
    rcases e with ⟨q, answer⟩
    cases q with
    | note n =>
      by_cases hn : n.channel = channel <;> simp [logOf, Exchange.notes, Exchange.entry?, hn]
    | _ => rfl
  rw [← hone, ← logOf_append]
  rfl

/-- What these exchanges are in the log: the story of the run, and the echo of its traffic. -/
structure Logged (verbose : Bool) (es : List Exchange) (story : List Entry) : Prop where
  told : logOf .sequence es = story
  echoed : logOf .wire es = if verbose then es.filterMap Exchange.echo? else []

namespace Logged

variable {verbose : Bool} {es es' : List Exchange} {story story' : List Entry}

theorem nil : Logged verbose [] [] := ⟨rfl, by cases verbose <;> rfl⟩

theorem append (h : Logged verbose es story) (h' : Logged verbose es' story') :
    Logged verbose (es ++ es') (story ++ story') where
  told := by rw [logOf_append, h.told, h'.told]
  echoed := by
    rw [logOf_append, h.echoed, h'.echoed, List.filterMap_append]
    cases verbose <;> rfl

/-- What the run says itself is not echoed, but for the beginning of a transmission. -/
theorem note {n : Note} (channel : n.channel = .sequence)
    (unechoed : Exchange.echo? ⟨.note n, ()⟩ = none) :
    Logged verbose [⟨.note n, ()⟩] [n.entry] where
  told := by simp [Exchange.entry?, channel]
  echoed := by simp [Exchange.entry?, channel, unechoed]

/-- An exchange that is no part of the log. -/
theorem silent {e : Exchange} (unsaid : ∀ channel, e.entry? channel = none)
    (unechoed : e.echo? = none) : Logged verbose [e] [] where
  told := by simp [unsaid]
  echoed := by simp [unsaid, unechoed]

theorem clock (now : Nat) : Logged verbose [⟨.clock, now⟩] [] := .silent (fun _ => rfl) rfl

end Logged

theorem Pushed.logged {port : String} {total written : Nat} {left : Bytes} {es : List Exchange}
    {r : Except LinkError Nat} (h : Pushed port total written left es r) (verbose : Bool) :
    Logged verbose es [] := by
  induction h with
  | whole => exact .nil
  | some more rest ih => exact .append (.silent (fun _ => rfl) rfl) ih
  | stalled | failed => exact .silent (fun _ => rfl) rfl

/-- The line is echoed where it is sent, behind the entry that says so. -/
theorem Sent.logged {line : Line} {c : Command} {es : List Exchange} {r : Except LinkError Unit}
    (h : Sent line c es r) (number : Nat) :
    Logged line.verbose (⟨.note (.sending c number), ()⟩ :: es) [.sending c number] := by
  have hbegun : Logged line.verbose
      (⟨.note (.sending c number), ()⟩ :: noted line.verbose (.wireOut c))
      [.sending c number] := by
    cases line.verbose <;> exact ⟨rfl, rfl⟩
  cases h with
  | unwritten pushed => exact hbegun.append (pushed.logged _)
  | unflushed pushed e =>
    exact hbegun.append ((pushed.logged _).append (.silent (fun _ => rfl) rfl))
  | @whole _ n pushed =>
    have hsent : Logged line.verbose [⟨.note (.sent n), ()⟩] [] := by
      cases line.verbose <;> exact ⟨rfl, rfl⟩
    exact hbegun.append ((pushed.logged _).append (.append (.silent (fun _ => rfl) rfl) hsent))

theorem Received.logged {line : Line} {es : List Exchange} {r : Except LinkError Bytes}
    (h : Received line es r) : Logged line.verbose es [] := by
  cases h with
  | chunk chunk =>
    by_cases hchunk : chunk = []
    · subst hchunk
      cases line.verbose <;> exact ⟨rfl, rfl⟩
    · have hempty : chunk.isEmpty = false := by simpa using hchunk
      have hecho : Exchange.echo? ⟨.read Line.chunkSize, .ok chunk⟩ =
          some (Note.wireIn chunk).entry := if_neg hchunk
      cases line.verbose with
      | false => exact ⟨rfl, rfl⟩
      | true =>
        rw [hempty]
        exact ⟨rfl, by simp only [List.filterMap_cons, hecho]; rfl⟩
  | silence | failed => exact .silent (fun _ => rfl) rfl

namespace Sequence

section

variable {line : Line} {options : RunOptions} {c : Command} {es : List Exchange}

theorem Early.logged {deadline : Option Nat} (h : Early deadline es) (verbose : Bool) :
    Logged verbose es [] := by
  cases h with
  | never => exact .nil
  | soon left => exact .clock _

theorem Due.logged {deadline : Option Nat} {r : Option (Option Nat)} (h : Due deadline es r)
    (verbose : Bool) : Logged verbose es [] := by
  cases h with
  | never => exact .nil
  | set now | overflow now => exact (Logged.clock now).append (.silent (fun _ => rfl) rfl)

theorem Gathered.logged {deadline : Option Nat} {received : Bytes}
    {r : Option (Except LinkError (Ending × Bytes))} (h : Gathered line deadline received es r) :
    Logged line.verbose es [] := by
  induction h with
  | impatient => exact .nil
  | failed read | settled read token => exact read.logged
  | late read unsettled bound past => exact read.logged.append (.clock _)
  | again read unsettled early rest ih => exact read.logged.append ((early.logged _).append ih)

/-- A transmission that is not cut off has both its entries. -/
theorem Attempted.logged {number : Nat} {r : Option (Except LinkError (Ending × Bytes))}
    (h : Attempted line options c number es r) (hr : ∀ cause, r ≠ some (.error cause)) :
    Logged line.verbose es [.sending c number, .awaiting c] := by
  cases h with
  | unsent send => exact absurd rfl (hr _)
  | beyond send far =>
    exact (send.logged number).append ((Logged.note rfl rfl).append (far.logged _))
  | sent send set wait =>
    exact (send.logged number).append
      ((Logged.note rfl rfl).append ((set.logged _).append wait.logged))

/-- However a transmission ends, it has the first of its entries. -/
theorem Attempted.logged_begins {number : Nat} {r : Option (Except LinkError (Ending × Bytes))}
    (h : Attempted line options c number es r) :
    ∃ part, Logged line.verbose es part ∧ [.sending c number] <+: part ∧
      part <+: [.sending c number, .awaiting c] := by
  cases h with
  | unsent send => exact ⟨_, send.logged number, List.prefix_rfl, by simp⟩
  | beyond send far =>
    exact ⟨_, (send.logged number).append ((Logged.note rfl rfl).append (far.logged _)), by simp,
      List.prefix_rfl⟩
  | sent send set wait =>
    exact ⟨_, (send.logged number).append
      ((Logged.note rfl rfl).append ((set.logged _).append wait.logged)), by simp, List.prefix_rfl⟩

theorem logged_resending (c : Command) (verbose : Bool) :
    Logged verbose (resending c) [.retrying c] :=
  (Logged.note rfl rfl).append (.silent (fun _ => rfl) rfl)

theorem Settled.logged {attempts : Nat} {ending : Ending} {response : Bytes}
    (h : Settled line options c es (some (.ok (attempts, ending, response)))) :
    Logged line.verbose es (c.story (attempts = 2)) := by
  cases h with
  | once first kept => exact first.logged (by simp)
  | twice first policy second =>
    exact (first.logged (by simp)).append
      ((logged_resending c _).append (second.logged (by simp)))

/-- A command that got no record has some of the entries of its transmissions, in order. -/
structure Unfinished (options : RunOptions) (c : Command) (part : List Entry) : Prop where
  begun : part ≠ []
  within : part <+: c.story (options.onTimeout = .retryOnce)

theorem Attempted.unfinished {r : Option (Except LinkError (Ending × Bytes))}
    (h : Attempted line options c 1 es r) :
    ∃ part, Logged line.verbose es part ∧ Unfinished options c part := by
  obtain ⟨part, hlogged, hbegun, hwithin⟩ := h.logged_begins
  refine ⟨part, hlogged, hbegun.ne_nil (by simp), hwithin.trans ?_⟩
  exact List.prefix_append _ _

/-- A second transmission, cut off or not, comes behind the whole of the first. -/
theorem Attempted.unfinished_again {es' : List Exchange} {lost : Bytes}
    {r : Option (Except LinkError (Ending × Bytes))}
    (first : Attempted line options c 1 es (some (.ok (.timedOut, lost))))
    (policy : options.onTimeout = .retryOnce) (second : Attempted line options c 2 es' r) :
    ∃ part, Logged line.verbose (es ++ (resending c ++ es')) part ∧
      Unfinished options c part := by
  obtain ⟨part, hlogged, -, hwithin⟩ := second.logged_begins
  refine ⟨_, (first.logged (by simp)).append ((logged_resending c _).append hlogged), by simp, ?_⟩
  simpa [Command.story, policy] using hwithin

theorem Settled.unfinished {r : Option (Except LinkError (Nat × Ending × Bytes))}
    (h : Settled line options c es r) :
    ∃ part, Logged line.verbose es part ∧ Unfinished options c part := by
  cases h with
  | once first kept => exact first.unfinished
  | cut first => exact first.unfinished
  | halted first => exact first.unfinished
  | uncleared first policy e =>
    refine ⟨_, (first.logged (by simp)).append
      (.append (.note rfl rfl) (.silent (fun _ => rfl) rfl)), by simp, ?_⟩
    have hentry : (Note.retrying c).entry = .retrying c := rfl
    simp [Command.story, policy, hentry]
  | twice first policy second => exact first.unfinished_again policy second
  | cutAgain first policy second => exact first.unfinished_again policy second
  | haltedAgain first policy second => exact first.unfinished_again policy second

theorem Executed.logged {r : Record} (h : Executed line options c es (some (.ok r))) :
    Logged line.verbose es r.story := by
  cases h with
  | recorded start finish settled record =>
    have hresponse : Logged line.verbose [⟨.note (.settled r), ()⟩] [.response r] := by
      rw [← Note.entry_settled]
      exact .note rfl rfl
    have hsettled := settled.logged
    rw [record] at hresponse ⊢
    exact (Logged.clock start).append (hsettled.append ((Logged.clock finish).append hresponse))

theorem Executed.unfinished {r : Option (Except LinkError Record)}
    (h : Executed line options c es r) (hr : ∀ record, r ≠ some (.ok record)) :
    ∃ part, Logged line.verbose es part ∧ Unfinished options c part := by
  cases h with
  | recorded => exact absurd rfl (hr _)
  | cut start settled | halted start settled =>
    obtain ⟨part, hlogged, hpart⟩ := settled.unfinished
    exact ⟨part, (Logged.clock start).append hlogged, hpart⟩

theorem logged_pause (options : RunOptions) (left : List Command) (verbose : Bool) :
    Logged verbose (pause options left) [] := by
  unfold pause
  split
  · exact .silent (fun _ => rfl) rfl
  · exact .nil

/-- What the log says of the commands left, and how that fits their end. A command that is not done
with is the one behind those that have records. -/
inductive Telling (options : RunOptions) (total : Nat) (records : List Record)
    (commands : List Command) : List Entry → Option (Except Interruption (Status × List Record)) →
      Prop where
  | whole {new all : List Record} (status : Status) (kept : all = records ++ new) :
      Telling options total records commands (new.flatMap Record.story) (some (.ok (status, all)))
  | cut {new : List Record} {c : Command} {i : Interruption} (kept : i.records = records ++ new)
      (position : i.position = i.records.length + 1)
      (split : commands = new.map Record.command ++ c :: left)
      (unfinished : Unfinished options c part) :
      Telling options total records commands (new.flatMap Record.story ++ part) (some (.error i))
  | halted {new : List Record} {c : Command}
      (split : commands = new.map Record.command ++ c :: left)
      (unfinished : Unfinished options c part) :
      Telling options total records commands (new.flatMap Record.story ++ part) none

theorem Telling.cons {total : Nat} {records : List Record} {left : List Command} {r : Record}
    {story : List Entry} {result : Option (Except Interruption (Status × List Record))}
    (h : Telling options total (records ++ [r]) left story result) :
    Telling options total records (r.command :: left) (r.story ++ story) result := by
  cases h with
  | @whole new all status kept =>
    rw [← List.flatMap_cons]
    exact .whole status (by rw [kept, List.append_assoc, List.singleton_append])
  | @cut after part new c i kept position split unfinished =>
    rw [← List.append_assoc, ← List.flatMap_cons]
    have hkept : i.records = records ++ r :: new := by
      rw [kept, List.append_assoc, List.singleton_append]
    have hsplit : r.command :: left = (r :: new).map Record.command ++ c :: after := by
      rw [split, List.map_cons, List.cons_append]
    exact .cut hkept position hsplit unfinished
  | @halted after part new c split unfinished =>
    rw [← List.append_assoc, ← List.flatMap_cons]
    have hsplit : r.command :: left = (r :: new).map Record.command ++ c :: after := by
      rw [split, List.map_cons, List.cons_append]
    exact .halted hsplit unfinished

theorem Advanced.logged {total : Nat} {records : List Record} {commands : List Command}
    {r : Option (Except Interruption (Status × List Record))}
    (h : Advanced line options total records commands es r) :
    ∃ story, Logged line.verbose es story ∧ Telling options total records commands story r := by
  induction h with
  | @finished records => exact ⟨[], .nil, .whole _ (List.append_nil records).symm⟩
  | success now good rest ih =>
    obtain ⟨story, hlogged, htelling⟩ := ih
    refine ⟨_, now.logged.append ((logged_pause _ _ _).append hlogged), ?_⟩
    obtain rfl := now.command
    exact htelling.cons
  | @failure _ _ record _ _ now bad | @timedOut _ _ record _ _ now late =>
    refine ⟨_, now.logged, ?_⟩
    rw [← List.flatMap_singleton Record.story record]
    exact .whole _ rfl
  | @cut c _ _ records left now =>
    obtain ⟨part, hlogged, hpart⟩ := now.unfinished (by simp)
    have hsplit : c :: left = [].map Record.command ++ c :: left := rfl
    exact ⟨part, hlogged, .cut (List.append_nil records).symm rfl hsplit hpart⟩
  | @halted c _ _ left now =>
    obtain ⟨part, hlogged, hpart⟩ := now.unfinished (by simp)
    have hsplit : c :: left = [].map Record.command ++ c :: left := rfl
    exact ⟨part, hlogged, .halted hsplit hpart⟩

end

/-- The log of a run says what its report says, whatever the port and the clock do: behind the
entry that begins it there are those of each record in order, and the entry that sums it up. A run
that breaks off leaves some of the entries of one command more, those of its transmissions. The
echo, if there is one, has an entry for each transmission and each chunk, in order, and a run
without it is the same in everything else. -/
theorem run_logged {σ : Type} [World σ] (line : Line) (options : RunOptions) (patience : Nat)
    (commands : List Command) (w : σ) :
    let played := (run line options patience commands).run.play w
    let begun := Entry.starting commands.length line.port
    (∀ report, played.result = some (.ok report) →
      logOf .sequence played.exchanges = begun :: (report.records.flatMap Record.story ++
        [.finished report.succeeded commands.length report.status])) ∧
    (∀ i, played.result = some (.error i) →
      ∃ c part, i.position = i.records.length + 1 ∧
        i.records.map Record.command = commands.take i.records.length ∧
        commands[i.records.length]? = some c ∧ Unfinished options c part ∧
        logOf .sequence played.exchanges = begun :: (i.records.flatMap Record.story ++ part)) ∧
    (played.result = none →
      ∃ (records : List Record) (c : Command) (left : List Command) (part : List Entry),
      commands = records.map Record.command ++ c :: left ∧ Unfinished options c part ∧
        logOf .sequence played.exchanges = begun :: (records.flatMap Record.story ++ part)) ∧
    logOf .wire played.exchanges =
      (if line.verbose then played.exchanges.filterMap Exchange.echo? else []) ∧
    (Tacit σ → (run line.hushed options patience commands).run.play w = played.hushed) := by
  intro played begun
  have hbegun : Logged line.verbose [⟨.note (.starting commands.length line.port), ()⟩] [begun] :=
    .note rfl rfl
  have hrun : Ran line options commands played.exchanges played.result :=
    run_course (Dialogue.play_transcript _ w)
  have hhushed : Tacit σ →
      (run line.hushed options patience commands).run.play w = played.hushed :=
    fun tacit => (run_hushes line options patience commands).play tacit w
  generalize played.exchanges = es at hrun ⊢
  generalize played.result = result at hrun ⊢
  cases hrun with
  | @reported es status records r course report =>
    obtain ⟨story, hlogged, htelling⟩ := course.logged
    cases htelling with
    | @whole new _ _ kept =>
    have hfinished : Logged line.verbose
        [⟨.note (.finished r.succeeded commands.length status), ()⟩]
        [.finished r.succeeded commands.length status] := by
      rw [← Note.entry_finished]
      exact .note rfl rfl
    have hall := hbegun.append (hlogged.append hfinished)
    obtain rfl : records = new := kept
    subst report
    refine ⟨?_, by simp, by simp, hall.echoed, hhushed⟩
    rintro _ ⟨⟩
    exact hall.told
  | cut course =>
    obtain ⟨story, hlogged, htelling⟩ := course.logged
    cases htelling with
    | @cut left part new c i kept position split unfinished =>
    have hall := hbegun.append hlogged
    rw [List.nil_append] at kept
    refine ⟨by simp, ?_, by simp, hall.echoed, hhushed⟩
    rintro _ ⟨⟩
    refine ⟨c, part, position, ?_, ?_, unfinished, ?_⟩
    · rw [split, kept, ← List.length_map Record.command, List.take_left]
    · rw [split, kept, ← List.length_map Record.command]
      simp
    · rw [kept]
      exact hall.told
  | halted course =>
    obtain ⟨story, hlogged, htelling⟩ := course.logged
    cases htelling with
    | @halted left part new c split unfinished =>
    have hall := hbegun.append hlogged
    refine ⟨by simp, by simp, ?_, hall.echoed, hhushed⟩
    intro _
    exact ⟨new, c, left, part, split, unfinished, hall.told⟩

/-- The first command is sent again and then succeeds, and the second is refused. Where the port
takes nothing at the first write, the log ends with the transmission that it cuts off. -/
theorem resent_run_logged :
    let bench : Bench := { rig.modem.script :=
      [⟨[], 0⟩, ⟨Verdict.successToken, 0⟩, ⟨Verdict.failureToken, 0⟩] }
    let stuck : Bench := { rig.faults := [((.write, 1), .nothing)] }
    let options : RunOptions := ⟨some 0, 0, .retryOnce⟩
    let commands : List Command := [⟨"AT"⟩, ⟨"ATZ"⟩]
    let resent : Record := ⟨⟨"AT"⟩, .success, 2, 0, "OK\r\n"⟩
    let refused : Record := ⟨⟨"ATZ"⟩, .failure, 1, 0, "ERROR\r\n"⟩
    let played := (run ⟨"M", true⟩ options 3 commands).run.play bench
    let broken := (run ⟨"M", true⟩ options 3 commands).run.play stuck
    played.result = some (.ok ⟨.failed 2 2, 1, [resent, refused]⟩) ∧
      logOf .sequence played.exchanges =
        [.starting 2 "M", .sending ⟨"AT"⟩ 1, .awaiting ⟨"AT"⟩, .retrying ⟨"AT"⟩,
          .sending ⟨"AT"⟩ 2, .awaiting ⟨"AT"⟩, .response resent, .sending ⟨"ATZ"⟩ 1,
          .awaiting ⟨"ATZ"⟩, .response refused, .finished 1 2 (.failed 2 2)] ∧
      Tacit Bench ∧ (run ⟨"M", false⟩ options 3 commands).run.play bench = played.hushed ∧
      broken.result = some (.error ⟨1, 2, [], .writeStalled "M" 0 4⟩) ∧
      ∃ part, Unfinished options ⟨"AT"⟩ part ∧
        logOf .sequence broken.exchanges = .starting 2 "M" :: part := by
  intro bench stuck options commands resent refused played broken
  have hplayed : played.result = some (.ok ⟨.failed 2 2, 1, [resent, refused]⟩) := by cbv
  have hbroken : broken.result = some (.error ⟨1, 2, [], .writeStalled "M" 0 4⟩) := by cbv
  obtain ⟨htold, -, -, -, hhushed⟩ := run_logged ⟨"M", true⟩ options 3 commands bench
  obtain ⟨-, hcut, -⟩ := run_logged ⟨"M", true⟩ options 3 commands stuck
  obtain ⟨c, part, -, -, hc, hpart, hlog⟩ := hcut _ hbroken
  cases hc
  exact ⟨hplayed, htold _ hplayed, Bench.tacit, hhushed Bench.tacit, hbroken, part, hpart, hlog⟩

end Sequence

end ModemBench
