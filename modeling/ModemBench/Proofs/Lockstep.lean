import Mathlib.Data.List.Forall2
import ModemBench.Proofs.Desk
import ModemBench.Proofs.WholeReply
/-!
Lockstep of host and modem. Where every reply is at hand and settles its command as a whole, the
link is empty whenever a command is settled: each command gets its own reply and nothing else,
however the port cuts what it carries.
-/

namespace ModemBench

/-- How many of `n` commands get a record: up to the first that is refused, or all of them. -/
def answered (n : Nat) (replies : List Bytes) : Nat :=
  min n ((replies.take n).findIdx refuses + 1)

theorem answered_succ (n : Nat) (reply : Bytes) (replies : List Bytes) :
    answered (n + 1) (reply :: replies) =
      (if refuses reply then 0 else answered n replies) + 1 := by
  rw [answered, answered, List.take_succ_cons, List.findIdx_cons]
  cases refuses reply <;> simp

/-- What a record tells of a command that got this reply. -/
structure Answers (c : Command) (reply : Bytes) (r : Record) : Prop where
  command : r.command = c
  attempts : r.attempts = 1
  ending : r.ending = .success ∧ Verdict.successToken <:+ reply ∨
    r.ending = .failure ∧ Verdict.failureToken <:+ reply
  response : r.response = Text.decode reply
  text : ∀ s, reply = Text.encode s → r.response = s

/-- A modem between two commands: nothing is under way in either direction. -/
structure Modem.Idle (m : Modem) (replies : List Bytes) : Prop extends Steady m where
  waiting : m.waiting = []
  held : m.held = []
  underway : m.underway = []
  script : m.script = replies.map (⟨·, 0⟩)
  punctual : m.emptyReads = 0

/-- A fresh modem with its limits and its script set. -/
def Modem.fresh (maxWrite maxRead : Option Nat) (replies : List Bytes) : Modem :=
  let limited := maxWrite.elim {} fun n => limitWrites n {}
  (maxRead.elim limited fun n => limitReads n limited).scriptReplies replies

theorem Modem.idle_fresh (maxWrite maxRead : Option Nat) (replies : List Bytes) :
    (fresh maxWrite maxRead replies).Idle replies := by
  have htakes : (fresh maxWrite maxRead replies).maxWrite ≠ some 0 := by
    cases maxWrite <;> cases maxRead <;> simp [fresh, limitWrites, limitReads, scriptReplies]
  have hgives : (fresh maxWrite maxRead replies).maxRead ≠ some 0 := by
    cases maxWrite <;> cases maxRead <;> simp [fresh, limitWrites, limitReads, scriptReplies]
  cases maxWrite <;> cases maxRead <;>
    exact ⟨⟨rfl, rfl, htakes, hgives⟩, rfl, rfl, rfl, rfl, rfl⟩

/-- The reads of each reply together take less time than the deadline gives. -/
def InTime (deadline : Option Nat) (lasts : PortCall → Nat → Nat) (start reach : Nat)
    (replies : List Bytes) : Prop :=
  ∀ duration, deadline = some duration → ∀ before reply after, replies = before ++ reply :: after →
    readTime lasts (start + (before.map (readsFor reach)).sum) (readsFor reach reply) <
      duration * 1000

namespace InTime

variable {deadline : Option Nat} {lasts : PortCall → Nat → Nat} {start reach : Nat} {reply : Bytes}
  {replies : List Bytes}

theorem head (h : InTime deadline lasts start reach (reply :: replies)) {duration : Nat}
    (hd : deadline = some duration) :
    readTime lasts start (readsFor reach reply) < duration * 1000 :=
  h duration hd [] reply replies rfl

theorem tail (h : InTime deadline lasts start reach (reply :: replies)) :
    InTime deadline lasts (start + readsFor reach reply) reach replies := by
  intro duration hd before reply' after hr
  have := h duration hd (reply :: before) reply' after (by rw [hr]; rfl)
  rwa [List.map_cons, List.sum_cons, ← Nat.add_assoc] at this

end InTime

/-- A desk after some commands were answered, with the replies that are still to come. -/
structure Desk.Exchanged (d : Desk) (commands : List Command) (replies rest : List Bytes)
    (d' : Desk) : Prop where
  idle : d'.modem.Idle rest
  lines : d'.modem.lines = d.modem.lines ++ commands.map Command.wire
  reach : d'.modem.reach = d.modem.reach
  lasts : d'.lasts = d.lasts
  reads : d'.calls .read = d.calls .read + (replies.map (readsFor d.modem.reach)).sum

namespace Desk.Exchanged

variable {d d' d'' : Desk} {commands commands' : List Command}
  {replies replies' rest rest' : List Bytes}

theorem refl (h : d.modem.Idle rest) : d.Exchanged [] [] rest d :=
  ⟨h, (List.append_nil _).symm, rfl, rfl, rfl⟩

theorem trans (h : d.Exchanged commands replies rest d')
    (h' : d'.Exchanged commands' replies' rest' d'') :
    d.Exchanged (commands ++ commands') (replies ++ replies') rest' d'' := by
  refine ⟨h'.idle, ?_, h'.reach.trans h.reach, h'.lasts.trans h.lasts, ?_⟩
  · rw [h'.lines, h.lines, List.map_append, List.append_assoc]
  · rw [h'.reads, h.reads, h.reach, List.map_append, List.sum_append, Nat.add_assoc]

theorem slept (h : d.Exchanged commands replies rest d') (duration : Nat) :
    d.Exchanged commands replies rest { d' with now := d'.now + duration * 1000 } :=
  ⟨h.idle, h.lines, h.reach, h.lasts, h.reads⟩

end Desk.Exchanged

namespace Sequence

/-- The deadline of a wait is set from the time on the desk. -/
theorem dueIn_reaches {ε : Type} (deadline : Option Nat) (d : Desk) :
    Reaches (liftM (dueIn deadline) : Talk ε (Option Nat)) d
      (deadline.map (d.now + · * 1000)) d := by
  cases deadline <;> exact ⟨rfl, rfl⟩

/-- A transmission ends with the reply at hand, which leaves the link empty again. -/
theorem attempt_reaches (line : Line) (options : RunOptions) {patience : Nat} {c : Command}
    (number : Nat) {d : Desk} {reply : Bytes} {rest : List Bytes}
    (idle : d.modem.Idle (reply :: rest)) (hc : '\n' ∉ c.line.toList) (hr : WholeReply reply)
    (patient : readsFor d.modem.reach reply ≤ patience)
    (time : ∀ duration, options.deadline = some duration →
      readTime d.lasts (d.calls .read) (readsFor d.modem.reach reply) < duration * 1000) :
    ∃ d', Reaches (attempt line options patience c number) d
        ((if refuses reply then Verdict.failure else .success).ending, reply) d' ∧
      d.Exchanged [c] [reply] rest d' := by
  obtain ⟨sent, writes, hsend, hsent⟩ := d.send_reaches line idle.toSteady hc idle.held idle.script
  have hsteady : sent.modem.Steady := by
    rw [hsent.modem]
    exact ⟨idle.noWriteFault, idle.noLineFault, idle.takes, idle.gives⟩
  have hwaiting : sent.modem.waiting = reply := by
    rw [hsent.modem]
    exact congrArg (· ++ reply) idle.waiting
  have hreach : sent.modem.reach = d.modem.reach := by
    rw [hsent.modem]
    rfl
  have hreads : sent.calls .read = d.calls .read := hsent.reads
  have hearly : ∀ due, options.deadline.map (sent.now + · * 1000) = some due →
      sent.now + readTime sent.lasts (sent.calls .read)
        (readsFor sent.modem.reach sent.modem.waiting) < due := by
    intro due hdue
    obtain ⟨duration, hduration, rfl⟩ := Option.map_eq_some_iff.mp hdue
    rw [hsent.lasts, hreads, hreach, hwaiting]
    exact Nat.add_lt_add_left (time duration hduration) _
  have hpatient : readsFor sent.modem.reach sent.modem.waiting ≤ patience := by
    rw [hreach, hwaiting]
    exact patient
  obtain ⟨d', hgather, hgathered⟩ := sent.gather_reaches line hsteady
    ((List.nil_append _).trans hwaiting) (hwaiting ▸ hr.ne_nil) hr.verdict
    (fun _ => hr.unsettled) hpatient hearly
  refine ⟨d', ?_, ?_⟩
  · refine Reaches.ask (hsend.bind ?_)
    exact Reaches.ask ((dueIn_reaches _ _).bind hgather)
  · have hmodem := hgathered.modem
    rw [hsent.modem] at hmodem
    have hsteady' := hsteady.withWaiting []
    rw [← hgathered.modem] at hsteady'
    refine ⟨⟨hsteady', ?_, ?_, ?_, ?_, ?_⟩, ?_, ?_, hgathered.lasts.trans hsent.lasts, ?_⟩
    · rw [hmodem]
      rfl
    · rw [hmodem]
      exact idle.held
    · rw [hmodem]
      exact idle.underway
    · rw [hmodem]
      rfl
    · rw [hmodem]
      exact idle.punctual
    · rw [hmodem]
      rfl
    · rw [hmodem]
      rfl
    · rw [hgathered.reads, hreads, hreach, hwaiting]
      simp

/-- A command gets the reply at hand, on its first transmission. -/
theorem execute_reaches (line : Line) (options : RunOptions) {patience : Nat} {c : Command}
    {d : Desk} {reply : Bytes} {rest : List Bytes} (idle : d.modem.Idle (reply :: rest))
    (hc : '\n' ∉ c.line.toList) (hr : WholeReply reply)
    (patient : readsFor d.modem.reach reply ≤ patience)
    (time : ∀ duration, options.deadline = some duration →
      readTime d.lasts (d.calls .read) (readsFor d.modem.reach reply) < duration * 1000) :
    ∃ r d', Reaches (execute line options patience c) d r d' ∧ Answers c reply r ∧
      r.ending = (if refuses reply then .failure else .success) ∧
      d.Exchanged [c] [reply] rest d' := by
  obtain ⟨d', hattempt, hexchanged⟩ :=
    attempt_reaches line options 1 idle hc hr patient time
  have hending : (if refuses reply then Verdict.failure else .success).ending =
      if refuses reply then Ending.failure else .success := by
    split <;> rfl
  rw [hending] at hattempt
  have hsettle : Reaches (settle line options patience c) d
      (1, if refuses reply then Ending.failure else .success, reply) d' := by
    refine hattempt.bind ?_
    have hkept : ¬ ((if refuses reply then Ending.failure else .success) = .timedOut ∧
        options.onTimeout = .retryOnce) := by
      split <;> simp
    rw [if_neg hkept]
    exact Reaches.done _ _
  refine ⟨⟨c, if refuses reply then .failure else .success, 1, elapsed d.now d'.now,
    Text.decode reply⟩, d', ?_, ⟨rfl, rfl, ?_, rfl, ?_⟩, rfl, hexchanged⟩
  · refine Reaches.ask (hsettle.bind ?_)
    exact Reaches.ask (Reaches.ask (Reaches.done _ _))
  · by_cases hrefused : refuses reply = true
    · exact .inr ⟨if_pos hrefused, (refuses_iff reply).mp hrefused⟩
    · refine .inl ⟨if_neg hrefused, hr.ends.resolve_right ?_⟩
      exact fun hf => hrefused ((refuses_iff reply).mpr hf)
  · intro s hs
    rw [hs]
    exact Text.decode_encode s

/-- The pause between two commands makes no difference but to the clock. -/
theorem pause_reaches (p : Prop) [Decidable p] (duration : Nat) {d d' : Desk}
    {commands : List Command} {replies rest : List Bytes}
    (h : d.Exchanged commands replies rest d') :
    ∃ next, d.Exchanged commands replies rest next ∧
      ∀ {ε β : Type} {x : Talk ε β} {b : β} {w : Desk}, Reaches x next b w →
        Reaches (if p then do
          let _ ← (liftM (Dialogue.perform (.sleep duration)) : Talk ε Unit); x else x) d' b w := by
  by_cases hp : p
  · refine ⟨_, h.slept duration, fun hx => ?_⟩
    rw [if_pos hp]
    exact Reaches.ask hx
  · refine ⟨d', h, fun hx => ?_⟩
    rwa [if_neg hp]

/-- The commands left get their replies one by one, up to the first that is refused. The link is
empty before each of them and after the last. -/
theorem advance_reaches (line : Line) (options : RunOptions) {patience : Nat} (total : Nat)
    (records : List Record) {commands : List Command} {replies : List Bytes} (d : Desk)
    (idle : d.modem.Idle replies) (hlength : commands.length ≤ replies.length)
    (hcommands : ∀ c ∈ commands, '\n' ∉ c.line.toList) (hreplies : ∀ r ∈ replies, WholeReply r)
    (patient : ∀ r ∈ replies.take (answered commands.length replies),
      readsFor d.modem.reach r ≤ patience)
    (time : InTime options.deadline d.lasts (d.calls .read) d.modem.reach
      (replies.take (answered commands.length replies))) :
    ∃ status new d', Reaches (advance line options patience total records commands) d
        (status, records ++ new) d' ∧
      List.Forall₂ (fun p r => Answers p.1 p.2 r)
        ((commands.zip replies).take (answered commands.length replies)) new ∧
      d.Exchanged (commands.take (answered commands.length replies))
        (replies.take (answered commands.length replies))
        (replies.drop (answered commands.length replies)) d' := by
  induction commands generalizing records replies d with
  | nil =>
    have hzero : answered 0 replies = 0 := by simp [answered]
    refine ⟨.completed total, [], d, ?_, ?_, ?_⟩
    · rw [List.append_nil]
      exact Reaches.done _ _
    · rw [List.length_nil, hzero]
      exact .nil
    · rw [List.length_nil, hzero]
      exact .refl idle
  | cons c left ih =>
    cases replies with
    | nil => exact absurd hlength (Nat.not_succ_le_zero _)
    | cons reply rest =>
      rw [List.length_cons, answered_succ] at patient time ⊢
      rw [List.take_succ_cons] at patient time
      obtain ⟨r, done, hexecute, hanswers, hending, hexchanged⟩ := execute_reaches line options idle
        (hcommands c List.mem_cons_self) (hreplies reply List.mem_cons_self)
        (patient reply List.mem_cons_self) fun _ => time.head
      rw [List.zip_cons_cons, List.take_succ_cons, List.take_succ_cons, List.take_succ_cons,
        List.drop_succ_cons]
      by_cases hrefuses : refuses reply = true
      · simp only [if_pos hrefuses, List.take_zero, List.drop_zero] at hending ⊢
        refine ⟨.failed (records.length + 1) total, [r], done, (hexecute.adapt _).bind ?_,
          .cons hanswers .nil, hexchanged⟩
        simp only [hending]
        exact Reaches.done _ _
      · simp only [if_neg hrefuses] at hending patient time ⊢
        obtain ⟨next, hnext, hpause⟩ :=
          pause_reaches (left ≠ [] ∧ options.delay ≠ 0) options.delay hexchanged
        obtain ⟨status, new, last, hrest, hall, hlast⟩ := @ih (records ++ [r]) rest next hnext.idle
          (Nat.le_of_succ_le_succ hlength)
          (fun c hc => hcommands c (List.mem_cons_of_mem _ hc))
          (fun q hq => hreplies q (List.mem_cons_of_mem _ hq))
          (fun q hq => hnext.reach ▸ patient q (List.mem_cons_of_mem _ hq))
          (by
            rw [hnext.reach, hnext.lasts, hnext.reads, List.map_singleton, List.sum_singleton]
            exact time.tail)
        refine ⟨status, r :: new, last, (hexecute.adapt _).bind ?_, .cons hanswers hall,
          hnext.trans hlast⟩
        have hnew : records ++ r :: new = records ++ [r] ++ new := List.append_cons _ _ _
        simp only [hending, hnew]
        exact hpause hrest

/-- What a run leaves that was in lockstep with the modem: a record for each command that was
answered, the lines of these commands, and the replies to come. -/
structure InLockstep (commands : List Command) (replies : List Bytes) (report : Report)
    (m : Modem) : Prop where
  length : report.records.length = answered commands.length replies
  answers : List.Forall₂ (fun p r => Answers p.1 p.2 r)
    ((commands.zip replies).take (answered commands.length replies)) report.records
  lines : m.lineTexts =
    (commands.take (answered commands.length replies)).map fun c => c.line ++ "\r\n"
  idle : m.Idle (replies.drop (answered commands.length replies))

/-- On a fresh modem with a whole reply for every command, a run comes to its end in lockstep,
whatever the limits of the port, the policy and the delay, if each reply can be read in time. -/
theorem run_lockstep (line : Line) (options : RunOptions) {patience : Nat}
    (maxWrite maxRead : Option Nat) {commands : List Command} {replies : List Bytes}
    (lasts : PortCall → Nat → Nat) (now : Nat) (hcommands : ∀ c ∈ commands, '\n' ∉ c.line.toList)
    (hreplies : ∀ r ∈ replies, WholeReply r) (hlength : commands.length ≤ replies.length)
    (patient : ∀ r ∈ replies.take (answered commands.length replies),
      readsFor (Modem.fresh maxWrite maxRead replies).reach r ≤ patience)
    (time : InTime options.deadline lasts 0 (Modem.fresh maxWrite maxRead replies).reach
      (replies.take (answered commands.length replies))) :
    ∃ report d, Reaches (run line options patience commands)
        (⟨Modem.fresh maxWrite maxRead replies, lasts, fun _ => 0, now⟩ : Desk) report d ∧
      InLockstep commands replies report d.modem := by
  obtain ⟨status, records, d, hadvance, hanswers, hexchanged⟩ := advance_reaches line options
    commands.length [] ⟨Modem.fresh maxWrite maxRead replies, lasts, fun _ => 0, now⟩
    (Modem.idle_fresh maxWrite maxRead replies) hlength hcommands hreplies patient time
  refine ⟨⟨status, records.countP (·.ending = .success), records⟩, d, ?_, ?_, hanswers, ?_,
    hexchanged.idle⟩
  · exact Reaches.ask (hadvance.bind (Reaches.ask (Reaches.done _ _)))
  · have hcount := hanswers.length_eq
    rw [List.length_take, List.length_zip, Nat.min_eq_left hlength] at hcount
    rw [← hcount]
    exact Nat.min_eq_left (Nat.min_le_left _ _)
  · have hfresh : (Modem.fresh maxWrite maxRead replies).lines = [] := by
      cases maxWrite <;> cases maxRead <;> rfl
    rw [Modem.lineTexts, hexchanged.lines, hfresh, List.nil_append, List.map_map]
    exact List.map_congr_left fun c _ => c.decode_wire

/-- Bytes go one by one each way, and each read takes a tenth of the deadline. The second command is
refused, so the third is not sent. -/
theorem refused_run_lockstep :
    let replies : List Bytes :=
      [[0xC3, 0xA9] ++ Verdict.successToken, Verdict.failureToken, Verdict.successToken]
    let commands : List Command := [⟨"AT"⟩, ⟨"ATZ"⟩, ⟨"ATI"⟩]
    let desk : Desk := ⟨Modem.fresh (some 1) (some 1) replies, fun _ _ => 100, fun _ => 0, 0⟩
    answered commands.length replies = 2 ∧
      ∃ report d, Reaches (run ⟨"M", false⟩ ⟨some 1, 5, .retryOnce⟩ 7 commands) desk report d ∧
        InLockstep commands replies report d.modem := by
  intro replies commands desk
  have patient : ∀ r ∈ replies.take (answered commands.length replies),
      readsFor (Modem.fresh (some 1) (some 1) replies).reach r ≤ 7 := by decide
  refine ⟨by decide, run_lockstep _ _ _ _ _ _ (by decide) (by decide) (by decide) patient ?_⟩
  intro duration hd before reply after hr
  cases hd
  have hreads := patient reply (by rw [hr]; simp)
  have hconst : ∀ start n, readTime (fun _ _ => 100) start n = n * 100 := by simp [readTime]
  rw [hconst]
  omega

end Sequence

end ModemBench
