import Mathlib
import ModemBench.Bench.World
import ModemBench.Proofs.Hearing
import ModemBench.Proofs.Progress
/-!
The pauses of a run. It sleeps only where the delay asks for it, between the read that settles a
command with success and the first write of the command behind, so there is one pause less than
there are commands started, however the run ends.
-/

namespace ModemBench

/-- How long the exchange sleeps, if that is what it does. -/
def Exchange.nap? : Exchange → Option Nat
  | ⟨.sleep duration, _⟩ => some duration
  | _ => none

/-- The sleeps among exchanges, in order: how long each of them is. -/
def naps (es : List Exchange) : List Nat := es.filterMap Exchange.nap?

@[simp] theorem naps_nil : naps [] = [] := rfl

@[simp] theorem naps_cons (e : Exchange) (es : List Exchange) :
    naps (e :: es) = e.nap?.toList ++ naps es := by
  cases he : e.nap? <;> simp [naps, he]

@[simp] theorem naps_append (es es' : List Exchange) : naps (es ++ es') = naps es ++ naps es' :=
  List.filterMap_append

@[simp] theorem naps_noted (b : Bool) (entry : Note) : naps (noted b entry) = [] := by
  cases b <;> rfl

/-- A sleep behind exchanges without one is among what follows them. -/
theorem split_after_awake {es es' front rest : List Exchange} {duration : Nat}
    (awake : naps es = []) (h : es ++ es' = front ++ ⟨.sleep duration, ()⟩ :: rest) :
    ∃ front', front = es ++ front' ∧ es' = front' ++ ⟨.sleep duration, ()⟩ :: rest := by
  rcases List.append_eq_append_iff.mp h with ⟨front', rfl, rfl⟩ | ⟨behind, rfl, hbehind⟩
  · exact ⟨front', rfl, rfl⟩
  · cases behind with
    | nil => exact ⟨[], by simp, hbehind.symm⟩
    | cons e behind =>
      cases hbehind
      simp [Exchange.nap?] at awake

/-- A sleep before exchanges without one is among what they follow. -/
theorem split_before_awake {es es' front rest : List Exchange} {duration : Nat}
    (awake : naps es' = []) (h : es ++ es' = front ++ ⟨.sleep duration, ()⟩ :: rest) :
    ∃ rest', rest = rest' ++ es' ∧ es = front ++ ⟨.sleep duration, ()⟩ :: rest' := by
  rcases List.append_eq_append_iff.mp h with ⟨behind, rfl, rfl⟩ | ⟨behind, rfl, hbehind⟩
  · simp [Exchange.nap?] at awake
  · cases behind with
    | nil =>
      obtain rfl : ⟨.sleep duration, ()⟩ :: rest = es' := hbehind
      simp [Exchange.nap?] at awake
    | cons e behind =>
      cases hbehind
      exact ⟨behind, rfl, rfl⟩

/-- The commands started, in order: a transmission that is not the first of its command starts
none. -/
def started (es : List Exchange) : List Command :=
  (sendings es).filterMap fun sending => if sending.2 = 1 then some sending.1 else none

@[simp] theorem started_append (es es' : List Exchange) :
    started (es ++ es') = started es ++ started es' := by
  simp [started]

/-- Exchanges that start no command and do not sleep. -/
structure Idle (es : List Exchange) : Prop where
  alone : started es = []
  awake : naps es = []

theorem Idle.nil : Idle [] := ⟨rfl, rfl⟩

theorem Idle.append {es es' : List Exchange} (h : Idle es) (h' : Idle es') : Idle (es ++ es') :=
  ⟨by rw [started_append, h.alone, h'.alone]; rfl, by rw [naps_append, h.awake, h'.awake]; rfl⟩

/-- The port is asked for nothing. -/
def Unasked (es : List Exchange) : Prop := ∀ e ∈ es, e.question.call? = none

@[simp] theorem Unasked.nil : Unasked [] := by simp [Unasked]

@[simp] theorem Unasked.cons_iff {e : Exchange} {es : List Exchange} :
    Unasked (e :: es) ↔ e.question.call? = none ∧ Unasked es := by
  simp [Unasked]

@[simp] theorem Unasked.append_iff {es es' : List Exchange} :
    Unasked (es ++ es') ↔ Unasked es ∧ Unasked es' := by
  simp [Unasked, or_imp, forall_and]

@[simp] theorem Unasked.noted (b : Bool) (entry : Note) : Unasked (noted b entry) := by
  cases b <;> simp [ModemBench.noted, Ask.call?]

/-- The first that the port is asked is to take the line of `c`, which is sent for the first
time. -/
def Opens (c : Command) (es : List Exchange) : Prop :=
  ∃ before answer rest, es = before ++ ⟨.write c.wire, answer⟩ :: rest ∧ Unasked before ∧
    sendings before = [(c, 1)]

theorem Opens.append {c : Command} {es : List Exchange} (h : Opens c es) (es' : List Exchange) :
    Opens c (es ++ es') := by
  obtain ⟨before, answer, rest, rfl, hbefore⟩ := h
  exact ⟨before, answer, rest ++ es', by rw [List.append_assoc, List.cons_append], hbefore⟩

/-- A wait that hears success only with its last read, and what that read gives. -/
structure Grants (wait : List Exchange) (chunk : Bytes) : Prop where
  alone : sendings wait = []
  unsettled : Verdict.of? (wait.flatMap Exchange.given) = none
  token : Verdict.of? (wait.flatMap Exchange.given ++ chunk) = some .success

/-- The last that the port was asked is the read that settles `c` with success. -/
def Granted (c : Command) (es : List Exchange) : Prop :=
  ∃ before number wait chunk behind r,
    es = before ++ ⟨.note (.sending c number), ()⟩ ::
      (wait ++ ⟨.read Line.chunkSize, .ok chunk⟩ :: (behind ++ [⟨.note (.settled r), ()⟩])) ∧
    Grants wait chunk ∧ Unasked behind ∧ r.command = c ∧ r.ending = .success

theorem Granted.after {c : Command} {es : List Exchange} (before : List Exchange)
    (h : Granted c es) : Granted c (before ++ es) := by
  obtain ⟨earlier, number, wait, chunk, behind, r, rfl, hrest⟩ := h
  exact ⟨before ++ earlier, number, wait, chunk, behind, r, (List.append_assoc _ _ _).symm, hrest⟩

theorem Pushed.awake {port : String} {total written : Nat} {left : Bytes} {es : List Exchange}
    {r : Except LinkError Nat} (h : Pushed port total written left es r) : naps es = [] := by
  induction h with
  | whole | stalled | failed => rfl
  | some more rest ih => simp [ih, Exchange.nap?]

/-- All that is left is offered at once. -/
theorem Pushed.opens {port : String} {total written : Nat} {left : Bytes} {es : List Exchange}
    {r : Except LinkError Nat} (h : Pushed port total written left es r) (more : left ≠ []) :
    ∃ answer rest, es = ⟨.write left, answer⟩ :: rest := by
  cases h with
  | whole => exact absurd rfl more
  | some | stalled | failed => exact ⟨_, _, rfl⟩

theorem Sent.awake {line : Line} {c : Command} {es : List Exchange} {r : Except LinkError Unit}
    (h : Sent line c es r) : naps es = [] := by
  cases h with
  | unwritten pushed | unflushed pushed | whole pushed => simp [pushed.awake, Exchange.nap?]

theorem Sent.opens {line : Line} {c : Command} {es : List Exchange} {r : Except LinkError Unit}
    (h : Sent line c es r) :
    ∃ answer rest, es = noted line.verbose (.wireOut c) ++ ⟨.write c.wire, answer⟩ :: rest := by
  have more : c.wire ≠ [] := by simp [Command.wire]
  cases h with
  | unwritten pushed | unflushed pushed | whole pushed =>
    obtain ⟨answer, rest, rfl⟩ := pushed.opens more
    exact ⟨answer, _, rfl⟩

theorem Received.awake {line : Line} {es : List Exchange} {r : Except LinkError Bytes}
    (h : Received line es r) : naps es = [] := by
  cases h <;> simp [Exchange.nap?]

namespace Sequence

section

variable {line : Line} {options : RunOptions} {c : Command} {es : List Exchange}

theorem Early.awake {deadline : Option Nat} (h : Early deadline es) : naps es = [] := by
  cases h <;> rfl

theorem Due.awake {deadline : Option Nat} {r : Option (Option Nat)} (h : Due deadline es r) :
    naps es = [] := by
  cases h <;> rfl

theorem Gathered.awake {deadline : Option Nat} {received : Bytes}
    {r : Option (Except LinkError (Ending × Bytes))} (h : Gathered line deadline received es r) :
    naps es = [] := by
  induction h with
  | impatient => rfl
  | failed read | settled read token => exact read.awake
  | late read unsettled bound past => simp [read.awake, Exchange.nap?]
  | again read unsettled early rest ih => simp [read.awake, early.awake, ih]

/-- A read that came to nothing settles nothing, so the read that grants success gave a chunk. -/
theorem Gathered.grants {deadline : Option Nat} {received response : Bytes}
    (h : Gathered line deadline received es (some (.ok (.success, response))))
    (fresh : Verdict.of? received = none) :
    ∃ wait chunk echo, es = wait ++ ⟨.read Line.chunkSize, .ok chunk⟩ :: echo ∧ Unasked echo ∧
      sendings wait = [] ∧ Verdict.of? (received ++ wait.flatMap Exchange.given) = none ∧
      Verdict.of? (received ++ wait.flatMap Exchange.given ++ chunk) = some .success := by
  generalize hr : some (Except.ok (Ending.success, response)) = r at h
  induction h with
  | impatient | failed | late => cases hr
  | @settled es chunk received verdict read token =>
    cases verdict with
    | failure => cases hr
    | success =>
      cases read with
      | chunk =>
        have hfresh : Verdict.of? (received ++ []) = none := by rwa [List.append_nil]
        exact ⟨[], chunk, _, rfl, .noted _ _, rfl, hfresh, by simpa using token⟩
      | silence quiet =>
        rw [List.append_nil, fresh] at token
        cases token
  | @again es _ _ look _ _ read unsettled early rest ih =>
    obtain ⟨wait, chunk, echo, rfl, hecho, halone, hbefore, htoken⟩ := ih unsettled hr
    refine ⟨es ++ (look ++ wait), chunk, echo, by simp only [List.append_assoc], hecho, ?_, ?_, ?_⟩
    · simp [read.idle, early.quiet.sendings, halone]
    · simpa [read.given, early.quiet.given] using hbefore
    · simpa [read.given, early.quiet.given] using htoken

theorem Attempted.awake {number : Nat} {r : Option (Except LinkError (Ending × Bytes))}
    (h : Attempted line options c number es r) : naps es = [] := by
  cases h with
  | unsent send => simp [send.awake, Exchange.nap?]
  | beyond send far => simp [send.awake, far.awake, Exchange.nap?]
  | sent send set wait => simp [send.awake, set.awake, wait.awake, Exchange.nap?]

theorem Attempted.sendings {number : Nat} {r : Option (Except LinkError (Ending × Bytes))}
    (h : Attempted line options c number es r) : sendings es = [(c, number)] := by
  obtain ⟨rest, rfl, hrest⟩ := h.transmission
  simp [hrest, Exchange.sending?]

theorem Attempted.opens {number : Nat} {r : Option (Except LinkError (Ending × Bytes))}
    (h : Attempted line options c number es r) :
    ∃ answer rest, es = ⟨.note (.sending c number), ()⟩ ::
      (noted line.verbose (.wireOut c) ++ ⟨.write c.wire, answer⟩ :: rest) := by
  cases h with
  | unsent send =>
    obtain ⟨answer, rest, rfl⟩ := send.opens
    exact ⟨answer, rest, rfl⟩
  | beyond send far =>
    obtain ⟨answer, rest, rfl⟩ := send.opens
    exact ⟨answer, _, by rw [List.append_assoc, List.cons_append]⟩
  | sent send set wait =>
    obtain ⟨answer, rest, rfl⟩ := send.opens
    exact ⟨answer, _, by rw [List.append_assoc, List.cons_append]⟩

theorem Attempted.grants {number : Nat} {response : Bytes}
    (h : Attempted line options c number es (some (.ok (.success, response)))) :
    ∃ wait chunk echo, es = ⟨.note (.sending c number), ()⟩ ::
        (wait ++ ⟨.read Line.chunkSize, .ok chunk⟩ :: echo) ∧
      Grants wait chunk ∧ Unasked echo := by
  cases h with
  | @sent es look due es' _ send set wait =>
    obtain ⟨heard, chunk, echo, rfl, hecho, halone, hbefore, htoken⟩ := wait.grants rfl
    refine ⟨es ++ ⟨.note (.awaiting c), ()⟩ :: (look ++ heard), chunk, echo, by simp, ⟨?_, ?_, ?_⟩,
      hecho⟩
    · simp [send.sendings, set.quiet.sendings, halone, Exchange.sending?]
    · simpa [send.given, set.quiet.given, Exchange.given] using hbefore
    · simpa [send.given, set.quiet.given, Exchange.given] using htoken

/-- However a command is settled, it begins with its first transmission, and what follows starts
no other. -/
theorem Settled.first {r : Option (Except LinkError (Nat × Ending × Bytes))}
    (h : Settled line options c es r) :
    ∃ first rest r', es = first ++ rest ∧ Attempted line options c 1 first r' ∧ Idle rest := by
  have hresend : ∀ {again r}, Attempted line options c 2 again r →
      Idle (resending c ++ again) := by
    intro again r second
    have hagain : started again = [] := by simp [started, second.sendings]
    exact .append ⟨rfl, rfl⟩ ⟨hagain, second.awake⟩
  cases h with
  | once first kept => exact ⟨es, [], _, (List.append_nil es).symm, first, .nil⟩
  | cut first => exact ⟨es, [], _, (List.append_nil es).symm, first, .nil⟩
  | halted first => exact ⟨es, [], _, (List.append_nil es).symm, first, .nil⟩
  | uncleared first policy e => exact ⟨_, _, _, rfl, first, rfl, rfl⟩
  | twice first policy second => exact ⟨_, _, _, rfl, first, hresend second⟩
  | cutAgain first policy second => exact ⟨_, _, _, rfl, first, hresend second⟩
  | haltedAgain first policy second => exact ⟨_, _, _, rfl, first, hresend second⟩

/-- What a command does, however it ends: it is the one that is started, and it never sleeps. -/
structure Turn (c : Command) (es : List Exchange) : Prop where
  opens : Opens c es
  started : started es = [c]
  awake : naps es = []

theorem Attempted.turn {rest : List Exchange} {r : Option (Except LinkError (Ending × Bytes))}
    (h : Attempted line options c 1 es r) (start : Nat) (idle : Idle rest) :
    Turn c (⟨.clock, start⟩ :: (es ++ rest)) := by
  refine ⟨?_, ?_, by simp [h.awake, idle.awake, Exchange.nap?]⟩
  · obtain ⟨answer, behind, rfl⟩ := h.opens
    refine ⟨⟨.clock, start⟩ :: ⟨.note (.sending c 1), ()⟩ :: noted line.verbose (.wireOut c),
      answer, behind ++ rest, by simp, by simp [Ask.call?], ?_⟩
    have hnoted : ModemBench.sendings (noted line.verbose (.wireOut c)) = [] := sendings_noted rfl
    simp [hnoted, Exchange.sending?]
  · change started ([⟨.clock, start⟩] ++ (es ++ rest)) = [c]
    have hclock : started [⟨.clock, start⟩] = [] := rfl
    have hfirst : started es = [c] := by simp [started, h.sendings]
    rw [started_append, started_append, hclock, hfirst, idle.alone]
    rfl

theorem Executed.turn {r : Option (Except LinkError Record)} (h : Executed line options c es r) :
    Turn c es := by
  cases h with
  | recorded start finish settled record =>
    obtain ⟨first, rest, r', rfl, hfirst, hidle⟩ := settled.first
    rw [List.append_assoc]
    exact hfirst.turn start (hidle.append ⟨rfl, rfl⟩)
  | cut start settled | halted start settled =>
    obtain ⟨first, rest, r', rfl, hfirst, hidle⟩ := settled.first
    exact hfirst.turn start hidle

/-- A command that succeeded ends with the read that told so, and its record. -/
theorem Executed.granted {r : Record} (h : Executed line options c es (some (.ok r)))
    (good : r.ending = .success) : Granted c es := by
  cases h with
  | @recorded _ attempts ending response _ start finish settled record =>
    subst record
    obtain rfl : ending = .success := good
    obtain ⟨front, number, last, rfl, hlast, -⟩ := settled.last
    obtain ⟨wait, chunk, echo, rfl, hgrants, hecho⟩ := hlast.grants
    exact ⟨⟨.clock, start⟩ :: front, number, wait, chunk, echo ++ [⟨.clock, finish⟩],
      ⟨c, .success, attempts, elapsed start finish, Text.decode response⟩, by simp, hgrants,
      by simp [hecho, Ask.call?], rfl, rfl⟩

end

/-- The turns of commands, one by one. Only one that ends with success is followed by another,
behind the pause that the delay asks for. -/
inductive Paced (options : RunOptions) : List Command → List Exchange → Prop where
  | none : Paced options [] []
  | last (turn : Turn c es) : Paced options [c] es
  | next (turn : Turn c es) (granted : Granted c es) (rest : Paced options (c' :: more) es') :
      Paced options (c :: c' :: more) (es ++ (pause options (c' :: more) ++ es'))

/-- The place of a pause in a run of these commands: the command before it has succeeded, and the
next begins behind it. -/
def Between (options : RunOptions) (commands : List Command) (front rest : List Exchange) : Prop :=
  ∃ told c c' left, commands = told ++ c :: c' :: left ∧ started front = told ++ [c] ∧
    naps front = List.replicate told.length options.delay ∧ Granted c front ∧ Opens c' rest

/-- A turn and its pause before the first of these commands. -/
theorem Between.next {options : RunOptions} {commands : List Command} {c : Command}
    {es front rest : List Exchange} (h : Between options commands front rest) (turn : Turn c es) :
    Between options (c :: commands) (es ++ ⟨.sleep options.delay, ()⟩ :: front) rest := by
  obtain ⟨told, d, d', left, hcommands, hstarted, hnaps, hgranted, hopens⟩ := h
  have hsleep : started [⟨.sleep options.delay, ()⟩] = [] := rfl
  rw [List.append_cons]
  refine ⟨c :: told, d, d', left, by rw [hcommands]; rfl, ?_, ?_, hgranted.after _, hopens⟩
  · rw [started_append, started_append, turn.started, hsleep, hstarted]
    rfl
  · simp [turn.awake, hnaps, Exchange.nap?, List.replicate_succ]

theorem Between.within {options : RunOptions} {begun commands : List Command}
    {before front rest behind : List Exchange} (h : Between options begun front rest)
    (idle : Idle before) (begins : begun <+: commands) :
    Between options commands (before ++ front) (rest ++ behind) := by
  obtain ⟨told, c, c', left, rfl, hstarted, hnaps, hgranted, hopens⟩ := h
  obtain ⟨more, rfl⟩ := begins
  refine ⟨told, c, c', left ++ more, by simp, ?_, ?_, hgranted.after before, hopens.append behind⟩
  · rw [started_append, idle.alone, hstarted]
    rfl
  · rw [naps_append, idle.awake, hnaps]
    rfl

theorem pause_cons (options : RunOptions) (c : Command) (left : List Command) :
    pause options (c :: left) =
      if options.delay = 0 then [] else [⟨.sleep options.delay, ()⟩] := by
  by_cases h : options.delay = 0 <;> simp [pause, h]

namespace Paced

variable {options : RunOptions} {commands : List Command} {es : List Exchange}

theorem opens {c : Command} {left : List Command} (h : Paced options (c :: left) es) :
    Opens c es := by
  cases h with
  | last turn => exact turn.opens
  | next turn granted rest => exact turn.opens.append _

theorem started (h : Paced options commands es) : started es = commands := by
  induction h with
  | none => rfl
  | last turn => exact turn.started
  | @next _ _ c' more _ turn granted rest ih =>
    have hpause : ModemBench.started (pause options (c' :: more)) = [] := by
      rw [pause_cons]
      split <;> rfl
    rw [started_append, started_append, turn.started, hpause, ih]
    rfl

theorem naps (h : Paced options commands es) :
    naps es = List.replicate (if options.delay = 0 then 0 else commands.length - 1)
      options.delay := by
  induction h with
  | none => simp
  | last turn => simp [turn.awake]
  | next turn granted rest ih =>
    rw [naps_append, naps_append, turn.awake, pause_cons, ih]
    by_cases hdelay : options.delay = 0
    · simp [hdelay]
    · simp [hdelay, Exchange.nap?, List.replicate_succ]

/-- One turn more, before those of the first of the commands left. -/
theorem cons {c : Command} {left : List Command} {es' : List Exchange}
    (h : Paced options commands es') (turn : Turn c es) (granted : Granted c es)
    (begins : commands <+: left) (stops : commands = [] → left = []) :
    Paced options (c :: commands) (es ++ (pause options left ++ es')) := by
  cases commands with
  | nil =>
    cases h
    rw [stops rfl, pause, if_neg (by simp), List.append_nil, List.append_nil]
    exact .last turn
  | cons c' more =>
    obtain ⟨left, rfl⟩ := begins
    rw [List.cons_append, pause_cons, ← pause_cons options c' more]
    exact .next turn granted h

/-- A sleep behind the first turn is the pause there, or one of the turns that follow. -/
theorem between {front rest : List Exchange} {duration : Nat} (h : Paced options commands es)
    (hes : es = front ++ ⟨.sleep duration, ()⟩ :: rest) : Between options commands front rest := by
  -- Without a delay there would be no sleep at all, so each pause below is one.
  have hdelay : options.delay ≠ 0 := by
    intro hdelay
    have hnaps := h.naps
    rw [hes] at hnaps
    simp [hdelay, Exchange.nap?] at hnaps
  induction h generalizing front with
  | none => simp at hes
  | last turn =>
    have hawake := turn.awake
    rw [hes] at hawake
    simp [Exchange.nap?] at hawake
  | @next c es c' more es' turn granted later ih =>
    obtain ⟨front, rfl, hfront⟩ := split_after_awake turn.awake hes
    rw [pause_cons, if_neg hdelay] at hfront
    cases front with
    | nil =>
      cases hfront
      rw [List.append_nil]
      exact ⟨[], c, c', more, rfl, turn.started, turn.awake, granted, later.opens⟩
    | cons e front =>
      cases hfront
      exact (ih rfl).next turn

end Paced

/-- How many commands the end of a run tells to have been started. -/
def reached : Except Interruption (Status × List Record) → Nat
  | .ok (_, records) => records.length
  | .error i => i.position

/-- Every run, whatever its end, is the turns of the first commands, and at least of one if there
is any. -/
theorem Advanced.paced {line : Line} {options : RunOptions} {total : Nat} {records : List Record}
    {commands : List Command} {es : List Exchange}
    {r : Option (Except Interruption (Status × List Record))}
    (h : Advanced line options total records commands es r) :
    ∃ begun, begun <+: commands ∧ (begun = [] → commands = []) ∧ Paced options begun es ∧
      ∀ result, r = some result → reached result = records.length + begun.length := by
  have hone : ∀ {c : Command} {left : List Command}, [c] <+: c :: left := by simp
  induction h with
  | finished =>
    refine ⟨[], List.prefix_rfl, fun _ => rfl, .none, ?_⟩
    rintro _ ⟨⟩
    rfl
  | @success c es record records left es' r now good rest ih =>
    obtain ⟨begun, hbegun, hnone, hpaced, hreached⟩ := ih
    refine ⟨c :: begun, List.cons_prefix_cons.mpr ⟨rfl, hbegun⟩, by simp, ?_, ?_⟩
    · exact hpaced.cons now.turn (now.granted good) hbegun hnone
    · intro result hresult
      rw [hreached result hresult]
      simp [Nat.add_assoc, Nat.add_comm 1]
  | failure now bad | timedOut now late =>
    refine ⟨[_], hone, by simp, .last now.turn, ?_⟩
    rintro _ ⟨⟩
    exact List.length_append
  | cut now =>
    refine ⟨[_], hone, by simp, .last now.turn, ?_⟩
    rintro _ ⟨⟩
    rfl
  | halted now => exact ⟨[_], hone, by simp, .last now.turn, by simp⟩

/-- The notes around the turns are no part of them. -/
theorem Ran.paced {line : Line} {options : RunOptions} {commands : List Command}
    {es : List Exchange} {r : Option (Except Interruption Report)}
    (h : Ran line options commands es r) :
    ∃ begun before turns behind, es = before ++ (turns ++ behind) ∧ Idle before ∧ Idle behind ∧
      begun <+: commands ∧ Paced options begun turns ∧
      (∀ report, r = some (.ok report) → begun.length = report.records.length) ∧
      ∀ i, r = some (.error i) → begun.length = i.position := by
  have hstarting : Idle [⟨.note (.starting commands.length line.port), ()⟩] := ⟨rfl, rfl⟩
  cases h with
  | reported course report =>
    obtain ⟨begun, hbegun, -, hpaced, hreached⟩ := course.paced
    refine ⟨begun, [_], _, _, rfl, hstarting, ⟨rfl, rfl⟩, hbegun, hpaced, ?_, by simp⟩
    rintro _ ⟨⟩
    simpa [report, reached] using (hreached _ rfl).symm
  | @cut es i course =>
    obtain ⟨begun, hbegun, -, hpaced, hreached⟩ := course.paced
    refine ⟨begun, [_], es, [], by simp, hstarting, .nil, hbegun, hpaced, by simp, ?_⟩
    rintro _ ⟨⟩
    simpa [reached] using (hreached _ rfl).symm
  | @halted es course =>
    obtain ⟨begun, hbegun, -, hpaced, -⟩ := course.paced
    exact ⟨begun, [_], es, [], by simp, hstarting, .nil, hbegun, hpaced, by simp, by simp⟩

/-- Whatever the port and the clock do, and however the run ends: its sleeps last the delay each,
one less than there are commands started, and none if the delay is zero. Each has its place
between a command that succeeded and the first write of the next. -/
theorem run_pauses {σ : Type} [World σ] (line : Line) (options : RunOptions) (patience : Nat)
    (commands : List Command) (w : σ) :
    let played := (run line options patience commands).run.play w
    let begun := started played.exchanges
    begun <+: commands ∧
    (∀ report, played.result = some (.ok report) → begun.length = report.records.length) ∧
    (∀ i, played.result = some (.error i) → begun.length = i.position) ∧
    naps played.exchanges =
      List.replicate (if options.delay = 0 then 0 else begun.length - 1) options.delay ∧
    ∀ front duration rest, played.exchanges = front ++ ⟨.sleep duration, ()⟩ :: rest →
      Between options commands front rest := by
  intro played begun
  have hrun : Ran line options commands played.exchanges played.result :=
    run_course (Dialogue.play_transcript _ w)
  obtain ⟨told, before, turns, behind, hes, hbefore, hbehind, htold, hpaced, hreport, hcut⟩ :=
    hrun.paced
  have hbegun : begun = told := by
    change started played.exchanges = told
    rw [hes, started_append, started_append, hbefore.alone, hbehind.alone, hpaced.started]
    simp
  rw [hbegun]
  refine ⟨htold, hreport, hcut, ?_, ?_⟩
  · rw [hes, naps_append, naps_append, hbefore.awake, hbehind.awake, hpaced.naps]
    simp
  · intro front duration rest hsplit
    rw [hes] at hsplit
    obtain ⟨front, rfl, hrest⟩ := split_after_awake hbefore.awake hsplit
    obtain ⟨rest, rfl, hturns⟩ := split_before_awake hbehind.awake hrest
    exact (hpaced.between hturns).within hbefore htold

/-- The second command is sent twice, and the third is refused. -/
theorem refused_run_pauses :
    let bench : Bench := { rig.modem.script :=
      [⟨Verdict.successToken, 0⟩, ⟨[], 0⟩, ⟨Verdict.successToken, 0⟩, ⟨Verdict.failureToken, 0⟩] }
    let commands : List Command := [⟨"AT"⟩, ⟨"ATZ"⟩, ⟨"ATI"⟩, ⟨"ATE"⟩]
    let played := (run ⟨"M", false⟩ ⟨some 0, 5, .retryOnce⟩ 3 commands).run.play bench
    let report : Report := ⟨.failed 3 4, 2, [⟨⟨"AT"⟩, .success, 1, 0, "OK\r\n"⟩,
      ⟨⟨"ATZ"⟩, .success, 2, 0, "OK\r\n"⟩, ⟨⟨"ATI"⟩, .failure, 1, 0, "ERROR\r\n"⟩]⟩
    played.result = some (.ok report) ∧ naps played.exchanges = [5, 5] := by
  intro bench commands played report
  have h : played.result = some (.ok report) := by cbv
  obtain ⟨-, hreport, -, hnaps, -⟩ :=
    run_pauses ⟨"M", false⟩ ⟨some 0, 5, .retryOnce⟩ 3 commands bench
  rw [hreport report h] at hnaps
  exact ⟨h, hnaps⟩

end Sequence

end ModemBench
