import Mathlib.Algebra.GroupWithZero.Nat
import ModemBench.Bench.Rig
import ModemBench.Proofs.ModemTraffic
import ModemBench.Proofs.Reaching
import ModemBench.Sequence.Run
/-!
A modem on a desk: nothing lies between the port and the modem, and the clock goes on by what each
call takes. What sending a command and gathering a reply do there.
-/

namespace ModemBench

/-- What `n` reads take that follow the first `start`, if each call lasts as long as told. -/
def readTime (lasts : PortCall → Nat → Nat) (start n : Nat) : Nat :=
  ((List.range n).map fun i => lasts .read (start + i)).sum

theorem readTime_succ (lasts : PortCall → Nat → Nat) (start n : Nat) :
    readTime lasts start (n + 1) = lasts .read start + readTime lasts (start + 1) n := by
  simp only [readTime, List.range_succ_eq_map, List.map_cons, List.sum_cons, List.map_map]
  congr 2
  refine List.map_congr_left fun i _ => ?_
  rw [Function.comp_apply, Nat.succ_eq_add_one, Nat.add_assoc, Nat.add_comm 1]

structure Desk where
  modem : Modem
  /-- What a call of the port takes, in microseconds, by its kind and by how many went before. -/
  lasts : PortCall → Nat → Nat
  calls : PortCall → Nat
  now : Nat

namespace Desk

/-- A call that left the modem like this. -/
def called (d : Desk) (call : PortCall) (modem : Modem) : Desk :=
  { d with
    modem
    calls := fun other => if other = call then d.calls call + 1 else d.calls other
    now := d.now + d.lasts call (d.calls call) }

instance : World Desk where
  answer
    | .write bytes, d => ((d.modem.write bytes).1, d.called .write (d.modem.write bytes).2)
    | .flush, d => (.ok (), d.called .flush d.modem)
    | .read cap, d => ((d.modem.read cap).1, d.called .read (d.modem.read cap).2)
    | .clear, d => (.ok (), d.called .clear d.modem.clear)
    | .clock, d => (d.now, d)
    | .tellable _, d => (true, d)
    | .sleep duration, d => ((), { d with now := d.now + duration * 1000 })
    | .note _, d | .print _, d | .complain _, d => ((), d)
    | .prepare _, d => (.ok (), d)
    | .connect serial verbose, d => (.ok ⟨serial.port, verbose⟩, d)
    | .start program _, d => (.error program, d)
    | .attach _, d => (.ok (), d)

/-- A desk some calls later: `n` reads were made, and the modem was left like this. -/
structure Later (d : Desk) (n : Nat) (modem : Modem) (d' : Desk) : Prop where
  modem : d'.modem = modem
  lasts : d'.lasts = d.lasts
  reads : d'.calls .read = d.calls .read + n

namespace Later

variable {d d' d'' : Desk} {n n' : Nat} {m m' : Modem}

theorem refl (d : Desk) : d.Later 0 d.modem d := ⟨rfl, rfl, rfl⟩

theorem trans (h : d.Later n m d') (h' : d'.Later n' m' d'') : d.Later (n + n') m' d'' :=
  ⟨h'.modem, h'.lasts.trans h.lasts, by rw [h'.reads, h.reads, Nat.add_assoc]⟩

theorem written (d : Desk) (m : Modem) : d.Later 0 m (d.called .write m) := ⟨rfl, rfl, rfl⟩

theorem flushed (h : d.modem = m) : d.Later 0 m (d.called .flush d.modem) := ⟨h, rfl, rfl⟩

theorem read (d : Desk) (m : Modem) : d.Later 1 m (d.called .read m) := ⟨rfl, rfl, rfl⟩

end Later

/-- However the port cuts the writes, the modem takes in all that is offered. -/
theorem push_reaches (line : Line) (total written : Nat) (left : Bytes) (d : Desk)
    (steady : d.modem.Steady) :
    ∃ d' writes, Reaches (line.push total written left) d (written + left.length) d' ∧
      d.Later 0 ((left.foldl Modem.accept d.modem).withWrites writes) d' := by
  fun_induction Line.push line total written left generalizing d with
  | case1 written => exact ⟨d, d.modem.writes, .done _ _, .refl d⟩
  | case2 written left more ih =>
    obtain ⟨taken, writes, ⟨rest, rfl⟩, hne, hwrite⟩ := Modem.write_steady steady more
    obtain ⟨n, hn⟩ := Nat.exists_eq_succ_of_ne_zero (mt List.length_eq_zero_iff.mp hne)
    have hdrop : (taken ++ rest).drop (n + 1) = rest := by
      rw [← Nat.succ_eq_add_one, ← hn, List.drop_left]
    have hanswer : World.answer (.write (taken ++ rest)) d =
        (.ok (n + 1), d.called .write ((taken.foldl Modem.accept d.modem).withWrites writes)) := by
      change ((d.modem.write (taken ++ rest)).1,
        d.called .write (d.modem.write (taken ++ rest)).2) = _
      rw [hwrite, hn]
    have hlength : written + (taken ++ rest).length = written + (n + 1) + rest.length := by
      rw [List.length_append, hn]
      omega
    obtain ⟨d', writes', hreaches, hlater⟩ := ih n
      (d.called .write ((taken.foldl Modem.accept d.modem).withWrites writes))
      ((Modem.steady_foldl steady taken).withWrites writes)
    rw [hdrop] at hreaches hlater
    refine ⟨d', writes', ?_, ?_⟩
    · refine Reaches.ask ?_
      rw [hanswer]
      simp only [hdrop, hlength]
      exact hreaches
    · have hmodem : ((rest.foldl Modem.accept
          ((taken.foldl Modem.accept d.modem).withWrites writes))).withWrites writes' =
          ((taken ++ rest).foldl Modem.accept d.modem).withWrites writes' := by
        rw [List.foldl_append, Modem.foldl_accept_withWrites]
        rfl
      rw [← hmodem]
      exact (Later.written d _).trans hlater

/-- A note changes nothing, taken or not. -/
theorem noted_reaches {ε β : Type} {p : Bool} {entry : Note} {f : Talk ε β} {d d' : Desk} {b : β}
    (hf : Reaches f d b d') :
    Reaches (if p = true then do
      let _ ← (liftM (Dialogue.perform (.note entry)) : Talk ε Unit); f else f) d b d' := by
  split
  · exact Reaches.ask hf
  · exact hf

/-- A command that is sent has its reply waiting at once. -/
theorem send_reaches (line : Line) {c : Command} {d : Desk} {reply : Bytes} {rest : List Reply}
    (steady : d.modem.Steady) (hc : '\n' ∉ c.line.toList) (held : d.modem.held = [])
    (script : d.modem.script = ⟨reply, 0⟩ :: rest) :
    ∃ d' writes, Reaches (line.send c) d () d' ∧
      d.Later 0 ((d.modem.answering c reply rest).withWrites writes) d' := by
  obtain ⟨d', writes, hpush, hlater⟩ := push_reaches line c.wire.length 0 c.wire d steady
  rw [Modem.foldl_accept_wire hc held script] at hlater
  refine ⟨d'.called .flush d'.modem, writes, ?_, hlater.trans (.flushed hlater.modem)⟩
  refine noted_reaches (hpush.bind ?_)
  exact Reaches.ask (Reaches.perform _ _)

/-- What arrives within one read while something is waiting. -/
theorem receive_reaches (line : Line) {d : Desk} (steady : d.modem.Steady)
    (more : d.modem.waiting ≠ []) :
    Reaches line.receive d (d.modem.waiting.take d.modem.reach)
      (d.called .read (d.modem.withWaiting (d.modem.waiting.drop d.modem.reach))) := by
  have hanswer : World.answer (.read Line.chunkSize) d =
      (.ok (d.modem.waiting.take d.modem.reach),
        d.called .read (d.modem.withWaiting (d.modem.waiting.drop d.modem.reach))) := by
    change ((d.modem.read Line.chunkSize).1, d.called .read (d.modem.read Line.chunkSize).2) = _
    rw [Modem.read_steady steady more]
  refine Reaches.ask ?_
  rw [hanswer]
  exact noted_reaches (Reaches.done _ _)

/-- The clock is read before its time. -/
theorem overdue_reaches {ε : Type} {deadline : Option Nat} {d : Desk}
    (early : ∀ time, deadline = some time → d.now < time) :
    Reaches (liftM (Sequence.overdue deadline) : Talk ε Bool) d false d := by
  cases deadline with
  | none => exact ⟨rfl, rfl⟩
  | some time =>
    have hlate : decide (time ≤ d.now) = false := by simp [early time rfl]
    rw [← hlate]
    exact ⟨rfl, rfl⟩

/-- A reply that settles only as a whole is gathered as a whole, however the reads cut it. What is
left of it waits at the modem; the induction is on the reads that are still allowed. -/
theorem gather_reaches (line : Line) {deadline : Option Nat} {patience : Nat} {received : Bytes}
    {d : Desk} {reply : Bytes} {verdict : Verdict} (steady : d.modem.Steady)
    (whole : received ++ d.modem.waiting = reply) (more : d.modem.waiting ≠ [])
    (settles : Verdict.of? reply = some verdict)
    (first : ∀ p, p <+: reply → p ≠ reply → Verdict.of? p = none)
    (patient : readsFor d.modem.reach d.modem.waiting ≤ patience)
    (early : ∀ time, deadline = some time →
      d.now + readTime d.lasts (d.calls .read) (readsFor d.modem.reach d.modem.waiting) < time) :
    ∃ d', Reaches (Sequence.gather line deadline patience received) d (verdict.ending, reply) d' ∧
      d.Later (readsFor d.modem.reach d.modem.waiting) (d.modem.withWaiting []) d' := by
  induction patience generalizing received d with
  | zero =>
    rw [readsFor_step steady.reach_pos more] at patient
    exact absurd patient (Nat.not_succ_le_zero _)
  | succ patience ih =>
    have hreceive := receive_reaches line steady more
    have hgathered : received ++ d.modem.waiting.take d.modem.reach ++
        d.modem.waiting.drop d.modem.reach = reply := by
      rw [List.append_assoc, List.take_append_drop, whole]
    rw [readsFor_step steady.reach_pos more] at patient early ⊢
    generalize d.modem.waiting.take d.modem.reach = chunk at hreceive hgathered
    generalize d.modem.waiting.drop d.modem.reach = left at hreceive hgathered patient early ⊢
    have hread := Later.read d (d.modem.withWaiting left)
    by_cases hleft : left = []
    · subst hleft
      rw [List.append_nil] at hgathered
      rw [readsFor_nil steady.reach_pos]
      refine ⟨_, hreceive.bind ?_, hread⟩
      simp only [hgathered, settles]
      exact Reaches.done _ _
    · -- What has come so far is a proper beginning of the reply, which settles nothing.
      have hunsettled : Verdict.of? (received ++ chunk) = none := by
        refine first _ ⟨_, hgathered⟩ ?_
        intro he
        exact hleft (List.append_cancel_left (he ▸ hgathered.trans (List.append_nil _).symm))
      have htime : ∀ time, deadline = some time →
          (d.called .read (d.modem.withWaiting left)).now +
            readTime d.lasts (d.calls .read + 1) (readsFor d.modem.reach left) < time := by
        intro time hd
        have hearly := early time hd
        rwa [readTime_succ, ← Nat.add_assoc] at hearly
      obtain ⟨d', hrest, hlater⟩ := @ih (received ++ chunk)
        (d.called .read (d.modem.withWaiting left)) (steady.withWaiting left) hgathered hleft
        (Nat.le_of_succ_le_succ patient) htime
      refine ⟨d', hreceive.bind ?_, ?_⟩
      · simp only [hunsettled]
        refine Reaches.bind (overdue_reaches fun time hd => ?_) hrest
        exact Nat.lt_of_le_of_lt (Nat.le_add_right _ _) (htime time hd)
      · rw [Nat.add_comm]
        exact hread.trans hlater

end Desk

end ModemBench
