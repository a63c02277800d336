import Mathlib
import ModemBench.Proofs.Hearing
import ModemBench.Proofs.PlanCourse
import ModemBench.Proofs.WholeReply
/-!
What a settled command leaves unread. The next command finds it waiting, and reads it before its own
reply. Replies that never succeed before they are read to their end leave nothing.
-/

namespace ModemBench

/-- A reply that is read to its end by the time that it has succeeded, in reads of so many bytes. -/
def Fits (reach : Nat) (reply : Bytes) : Prop :=
  ∀ n, Verdict.of? (reply.take (n * reach)) = some .success → reply.length ≤ n * reach

theorem Fits.nil (reach : Nat) : Fits reach [] := fun _ _ => Nat.zero_le _

theorem WholeReply.fits {reply : Bytes} (h : WholeReply reply) (reach : Nat) :
    Fits reach reply := by
  intro n hn
  refine Nat.le_of_not_lt fun hlong => ?_
  have hproper : reply.take (n * reach) ≠ reply := by
    intro he
    have hlength := congrArg List.length he
    rw [List.length_take, Nat.min_eq_left (Nat.le_of_lt hlong)] at hlength
    exact Nat.ne_of_lt hlong hlength
  rw [h.unsettled (List.take_prefix _ _) hproper] at hn
  cases hn

theorem Received.take_still {line : Line} {es : List Exchange} {chunk : Bytes} {m m' : Modem}
    (h : Received line es (.ok chunk)) (served : m.Served es m') (still : m.underway = []) :
    chunk = m.waiting.take m.reach ∧ m'.waiting = m.waiting.drop m.reach ∧ m'.underway = [] := by
  obtain ⟨answer, rest, rfl, haside, hgiven⟩ := h.read
  obtain _ | ⟨one, hrest⟩ := served
  obtain rfl := haside.served hrest
  rw [← hgiven chunk rfl]
  exact one.read_still still

namespace Ledger

/-- Nothing is underway, and every reply of the script is at hand. -/
structure Prompt (l : Ledger) : Prop where
  still : l.underway = []
  script : ∀ reply ∈ l.script, reply.delay = 0

/-- The bytes of the next reply. -/
def reply (l : Ledger) : Bytes := l.script.head?.elim [] Reply.bytes

namespace Prompt

variable {l : Ledger}

theorem line_eq (h : l.Prompt) :
    l.line = { l with
      lines := l.lines + 1
      script := l.script.tail
      waiting := l.waiting ++ l.reply.map (l.lines + 1, ·) } := by
  unfold Ledger.line Ledger.reply
  cases hs : l.script with
  | nil => simp
  | cons r rest =>
    have hr := h.script r (by simp [hs])
    simp [hr]

theorem line (h : l.Prompt) : l.line.Prompt := by
  rw [h.line_eq]
  exact ⟨h.still, fun reply hreply => h.script reply (List.mem_of_mem_tail hreply)⟩

theorem accept (h : l.Prompt) (b : UInt8) : (l.accept b).Prompt := by
  unfold Ledger.accept
  split
  · exact h.line
  · exact h

theorem next (h : l.Prompt) (e : Exchange) : (l.next e).Prompt := by
  unfold Ledger.next
  split
  · exact List.foldlRecOn _ Ledger.accept h fun _ hl b _ => hl.accept b
  · exact ⟨h.still, h.script⟩
  · exact ⟨by simp [land, h.still], h.script⟩
  · exact ⟨h.still, h.script⟩
  · exact ⟨h.still, h.script⟩
  · exact h

theorem after (h : l.Prompt) (es : List Exchange) : (l.after es).Prompt :=
  List.foldlRecOn es Ledger.next h fun _ hl e _ => hl.next e

end Prompt

/-- A wait in the transmission that began with the ledger `l`: what was waiting and then the reply
to the line have been heard in part, and wait in part. -/
structure Since (l k : Ledger) : Prop where
  still : k.underway = []
  found : k.wait.found = l.waiting
  lines : k.lines = l.lines + 1
  split : k.wait.heard ++ k.waiting = l.waiting ++ l.reply.map (k.lines, ·)

theorem Prompt.since_line {l : Ledger} (h : l.Prompt) : l.Since l.started.line := by
  have hstarted : l.started.Prompt := ⟨h.still, h.script⟩
  rw [hstarted.line_eq]
  exact ⟨h.still, rfl, rfl, rfl⟩

theorem Since.read {l k : Ledger} (h : l.Since k) (cap : Nat) (answer : Except PortError Bytes) :
    l.Since (k.next ⟨.read cap, answer⟩) := by
  cases answer with
  | ok bytes =>
    refine ⟨h.still, h.found, h.lines, ?_⟩
    change k.wait.heard ++ k.waiting.take bytes.length ++ k.waiting.drop bytes.length = _
    rw [List.append_assoc, List.take_append_drop]
    exact h.split
  | error e =>
    refine ⟨by simp [Ledger.next, land, h.still], h.found, h.lines, ?_⟩
    simpa [Ledger.next, land, h.still] using h.split

/-- The host has heard only the reply to the last line if nothing was waiting before. -/
theorem Since.own_iff {l k : Ledger} (h : l.Since k) (dated : l.Dated) :
    (∀ b ∈ k.wait.heard, b.1 = k.lines) ↔ k.wait.found = [] ∨ k.wait.heard = [] := by
  have hsplit := h.split
  rw [← h.found] at hsplit
  constructor
  · intro hheard
    cases hf : k.wait.found with
    | nil => exact .inl rfl
    | cons b found =>
      cases hh : k.wait.heard with
      | nil => exact .inr rfl
      | cons b' heard =>
        -- The first byte heard is the first that was waiting, which is older than the line.
        rw [hf, hh] at hsplit
        obtain ⟨rfl, -⟩ := List.cons.inj hsplit
        have hlabel := hheard b' (by simp [hh])
        have hold := dated.waiting b' (by simp [← h.found, hf])
        have hlines := h.lines
        omega
  · rintro (hf | hh)
    · intro b hb
      rw [hf, List.nil_append] at hsplit
      have hown : b ∈ l.reply.map (k.lines, ·) := hsplit ▸ List.mem_append_left _ hb
      obtain ⟨_, -, rfl⟩ := List.mem_map.mp hown
      rfl
    · rw [hh]
      exact List.forall_mem_nil _

end Ledger

namespace Sequence

variable {line : Line} {options : RunOptions} {c : Command} {es : List Exchange} {l : Ledger}
  {m m' : Modem}

/-- A wait that ends in success has read a reply that fits to its end. The induction is on the
wait, `n` reads into the reply. -/
theorem Gathered.drained {deadline : Option Nat} {received response reply : Bytes} {n : Nat}
    (h : Gathered line deadline received es (some (.ok (.success, response))))
    (served : m.Served es m') (still : m.underway = []) (fits : Fits m.reach reply)
    (hreceived : received = reply.take (n * m.reach))
    (hwaiting : m.waiting = reply.drop (n * m.reach)) : m'.waiting = [] := by
  generalize hr : some (Except.ok (Ending.success, response)) = r at h
  induction h generalizing m n with
  | impatient | failed | late => cases hr
  | @settled received chunk es verdict read token =>
    cases verdict with
    | failure => cases hr
    | success =>
      obtain ⟨hchunk, hleft, -⟩ := read.take_still served still
      rw [hreceived, hchunk, hwaiting, ← List.take_add, ← Nat.succ_mul] at token
      rw [hleft, hwaiting, List.drop_drop, ← Nat.succ_mul]
      exact List.drop_of_length_le (fits _ token)
  | again read unsettled early rest ih =>
    obtain ⟨m₁, hread, hrest⟩ := Modem.Served.append_iff.mp served
    obtain ⟨m₂, hlook, hwait⟩ := Modem.Served.append_iff.mp hrest
    obtain rfl := early.aside.served hlook
    obtain ⟨hchunk, hleft, hstill⟩ := read.take_still hread still
    refine @ih m₂ (n + 1) hwait hstill (by rwa [hread.reach]) ?_ ?_ hr
    · rw [hread.reach, hreceived, hchunk, hwaiting, ← List.take_add, ← Nat.succ_mul]
    · rw [hread.reach, hleft, hwaiting, List.drop_drop, ← Nat.succ_mul]

theorem Attempted.since {number : Nat} {ending : Ending} {response : Bytes}
    (h : Attempted line options c number es (some (.ok (ending, response))))
    (hc : '\n' ∉ c.line.toList) (served : m.Served es m') (prompt : l.Prompt) :
    l.Since (l.after es) := by
  obtain ⟨due, front, wait, m₁, rfl, gathered, -, -, hfront⟩ := h.waits hc served
  rw [Ledger.after_append, hfront]
  exact gathered.preserves (fun k answer hk => hk.read _ answer) prompt.since_line

theorem Attempted.drained {number : Nat} {response : Bytes}
    (h : Attempted line options c number es (some (.ok (.success, response))))
    (hc : '\n' ∉ c.line.toList) (tells : l.Tells m) (served : m.Served es m') (prompt : l.Prompt)
    (empty : l.waiting = []) (fits : ∀ reply ∈ l.script, Fits m.reach reply.bytes) :
    (l.after es).waiting = [] := by
  have htells := tells.after served
  obtain ⟨due, front, wait, m₁, rfl, gathered, hserved, hwait, hfront⟩ := h.waits hc served
  have hstarted : l.started.Prompt := ⟨prompt.still, prompt.script⟩
  have hline := hstarted.line_eq
  have htells₁ := tells.after hserved
  rw [hfront, hline] at htells₁
  have hwaiting : m₁.waiting = l.reply := by
    rw [← htells₁.waiting]
    simp [Ledger.started, Ledger.reply, empty, Function.comp_def]
  have hstill : m₁.underway = [] := by
    rw [← htells₁.underway]
    simp [Ledger.started, prompt.still]
  have hfits : Fits m₁.reach l.reply := by
    rw [hserved.reach]
    unfold Ledger.reply
    cases hs : l.script with
    | nil => exact .nil _
    | cons reply rest => exact fits reply (by simp [hs])
  have hnone := gathered.drained (n := 0) hwait hstill hfits (by simp) (by simpa using hwaiting)
  rw [← htells.waiting] at hnone
  exact List.map_eq_nil_iff.mp hnone

/-- A record tells of what was heard, which is of its own line exactly if nothing was waiting. -/
def TellsOwn (l : Ledger) (e : Exchange) : Prop :=
  ∀ r, e = ⟨.note (.settled r), ()⟩ → Settles (l.wait.heard.map Prod.snd) r ∧
    ((∀ b ∈ l.wait.heard, b.1 = l.lines) ↔ l.wait.found = [] ∨ l.wait.heard = [])

theorem TellsOwn.of_unmarked (l : Ledger) (e : Exchange) (h : e.marks = false) : TellsOwn l e := by
  rintro r rfl
  cases h

theorem upholds_tellsOwn {commands : List Command} (hc : ∀ c ∈ commands, '\n' ∉ c.line.toList) :
    Upholds line options TellsOwn (fun l m => l.Tells m ∧ l.Dated ∧ l.Prompt) commands := by
  rintro c hmem es r l m m' now ⟨tells, dated, prompt⟩ served
  refine ⟨now.always served TellsOwn.of_unmarked (by rintro _ ⟨⟩) (fun _ _ => by rintro _ ⟨⟩) ?_,
    fun _ _ _ => ⟨tells.after served, dated.after es, prompt.after es⟩⟩
  rintro during attempts ending response m₁ elapsed settled hserved _ ⟨⟩
  refine ⟨settled.settles tells hserved elapsed, ?_⟩
  obtain ⟨front, number, last, rfl, hlast, -⟩ := settled.last
  obtain ⟨m₂, hfront, hserved⟩ := Modem.Served.append_iff.mp hserved
  rw [Ledger.after_append]
  exact (hlast.since (hc c hmem) hserved (prompt.after front)).own_iff (dated.after front)

/-- Between two commands nothing is under way, and the replies to come fit into reads. -/
structure Calm (l : Ledger) (m : Modem) : Prop where
  tells : l.Tells m
  prompt : l.Prompt
  empty : l.waiting = []
  fits : ∀ reply ∈ l.script, Fits m.reach reply.bytes

theorem Calm.after (h : Calm l m) (served : m.Served es m') (empty : (l.after es).waiting = []) :
    Calm (l.after es) m' := by
  refine ⟨h.tells.after served, h.prompt.after es, empty, fun reply hreply => ?_⟩
  rw [served.reach]
  exact h.fits reply ((l.script_after es).subset hreply)

/-- The transmission that settles a command begins as calmly as the command. -/
theorem Settled.calm {attempts : Nat} {ending : Ending} {response : Bytes}
    (h : Settled line options c es (some (.ok (attempts, ending, response)))) (calm : Calm l m)
    (hc : '\n' ∉ c.line.toList) (served : m.Served es m') :
    (l.after es).wait.found = [] ∧ (ending = .success → Calm (l.after es) m') := by
  obtain ⟨front, number, last, rfl, hlast, hfront⟩ := h.last
  obtain ⟨m₁, hserved, hrest⟩ := Modem.Served.append_iff.mp served
  have hempty : (l.after front).waiting = [] := by
    rcases hfront with rfl | hcleared
    · exact calm.empty
    · exact hcleared l
  have hcalm := calm.after hserved hempty
  rw [Ledger.after_append]
  refine ⟨(hlast.since hc hrest hcalm.prompt).found.trans hempty, ?_⟩
  rintro rfl
  exact hcalm.after hrest (hlast.drained hc hcalm.tells hrest hcalm.prompt hempty hcalm.fits)

/-- When a command is settled, nothing was waiting as its last transmission began. -/
def Undisturbed (l : Ledger) (e : Exchange) : Prop :=
  ∀ r, e = ⟨.note (.settled r), ()⟩ → l.wait.found = []

theorem Undisturbed.of_unmarked (l : Ledger) (e : Exchange) (h : e.marks = false) :
    Undisturbed l e := by
  rintro r rfl
  cases h

theorem upholds_undisturbed {commands : List Command}
    (hc : ∀ c ∈ commands, '\n' ∉ c.line.toList) :
    Upholds line options Undisturbed Calm commands := by
  rintro c hmem es r l m m' now calm served
  refine ⟨now.always served Undisturbed.of_unmarked (by rintro _ ⟨⟩) (fun _ _ => by rintro _ ⟨⟩)
    ?_, ?_⟩
  · rintro during attempts ending response m₁ elapsed settled hserved _ -
    exact (settled.calm calm (hc c hmem) hserved).1
  · rintro record hr good
    cases now with
    | recorded start finish settled record =>
      subst record
      cases hr
      refine calm.after served ?_
      obtain _ | ⟨started, served⟩ := served
      obtain rfl := started
      obtain ⟨m₁, hserved, -⟩ := Modem.Served.append_iff.mp served
      have hempty := ((settled.calm calm (hc c hmem) hserved).2 good).empty
      rw [Ledger.after_cons, Ledger.after_append]
      exact hempty
    | cut | halted => cases hr

end Sequence

namespace Plan

theorem Performed.always {plan : Plan} {settings : Settings} {es : List Exchange}
    {r : Option (Except Failure Summary)} {P : Ledger → Exchange → Prop}
    {I : Ledger → Modem → Prop} {l : Ledger} {m m' : Modem} (h : Performed plan settings es r)
    (rest : ∀ l e, e.marks = false → P l e)
    (upholds : ∀ line, Sequence.Upholds line settings.pacing.options P I plan.commands)
    (hl : I { l with waiting := [] } m.clear) (served : m.Served es m') : l.Always P es := by
  have hran : ∀ {line es r}, Sequence.Ran line settings.pacing.options plan.commands es r →
      m.Served (plan.opening settings line ++ es) m' →
        l.Always P (plan.opening settings line ++ es) := by
    intro line es r course served
    obtain ⟨m₁, hopening, hserved⟩ := Modem.Served.append_iff.mp served
    have hcleared : m₁ = m.clear := by
      obtain _ | ⟨⟨⟩, _ | ⟨⟨⟩, _ | ⟨⟨⟩, _ | ⟨⟨-, rfl⟩, ⟨⟩⟩⟩⟩⟩ := hopening
      rfl
    have hunmarked : Unmarked (plan.opening settings line) := by simp [opening, Exchange.marks]
    subst hcleared
    exact Ledger.Always.append_iff.mpr
      ⟨hunmarked.always rest, course.always rest (upholds line) hl hserved⟩
  cases h with
  | unprepared | unconnected | uncleared =>
    refine Unmarked.always ?_ rest
    simp [Exchange.marks]
  | reported course | cut course | halted course => exact hran course served

/-- Where every reply is at hand, a record of a plan tells only of what was read since the last
transmission began. All of it belongs to the reply to that line exactly if nothing was left over
before. Where every reply fits into the reads, nothing ever is. -/
theorem run_settled_by_own_reply {σ : Type} [World σ] {modem : σ → Modem} (fronts : Fronts modem)
    {plan : Plan} {settings : Settings} {patience : Nat} {w : σ}
    (hc : ∀ c ∈ plan.commands, '\n' ∉ c.line.toList) (still : (modem w).underway = [])
    (prompt : ∀ reply ∈ (modem w).script, reply.delay = 0) {front rest : List Exchange}
    {r : Record} (split : ((plan.run settings patience).run.play w).exchanges =
      front ++ ⟨.note (.settled r), ()⟩ :: rest) :
    let l := (modem w).ledger.after front
    Sequence.Settles (l.wait.heard.map Prod.snd) r ∧
      ((∀ b ∈ l.wait.heard, b.1 = l.lines) ↔ l.wait.found = [] ∨ l.wait.heard = []) ∧
      ((∀ reply ∈ (modem w).script, Fits (modem w).reach reply.bytes) → l.wait.found = []) := by
  intro l
  have hcourse := run_course (Dialogue.play_transcript (plan.run settings patience).run w)
  have hserved := fronts.play (plan.run settings patience).run w
  have htells : Ledger.Tells { (modem w).ledger with waiting := [] } (modem w).clear :=
    ⟨rfl, (modem w).ledger_tells.underway, rfl, rfl⟩
  have hdated := (modem w).ledger_dated.next ⟨.clear, .ok ()⟩
  have hprompt : Ledger.Prompt { (modem w).ledger with waiting := [] } :=
    ⟨by simp [Modem.ledger, still], prompt⟩
  have hown := hcourse.always Sequence.TellsOwn.of_unmarked
    (fun _ => Sequence.upholds_tellsOwn hc) ⟨htells, hdated, hprompt⟩ hserved
  obtain ⟨hsettles, hiff⟩ := hown _ _ _ split r rfl
  refine ⟨hsettles, hiff, fun fits => ?_⟩
  have halways := hcourse.always Sequence.Undisturbed.of_unmarked
    (fun _ => Sequence.upholds_undisturbed hc) ⟨htells, hprompt, rfl, fits⟩ hserved
  exact halways _ _ _ split r rfl

set_option maxRecDepth 2000 in
/-- Each reply takes two reads and succeeds with the second. -/
theorem whole_replies_settled :
    let reply : Reply := ⟨Verdict.successToken, 0⟩
    let desk : Desk := ⟨{ waiting := [0x21], script := [reply, reply], maxRead := some 3 },
      fun _ _ => 0, fun _ => 0, 0⟩
    let plan : Plan := ⟨.one .app 0 (by decide), [⟨"AT"⟩, ⟨"ATZ"⟩]⟩
    let settings : Settings := { pacing := { responseTimeout := 0, interCommandDelay := 0 } }
    let es := ((plan.run settings 9).run.play desk).exchanges
    let l := desk.modem.ledger.after (es.take 24)
    Sequence.Settles (l.wait.heard.map Prod.snd) ⟨⟨"ATZ"⟩, .success, 1, 0, "OK\r\n"⟩ ∧
      l.wait.found = [] ∧ ∀ b ∈ l.wait.heard, b.1 = l.lines := by
  intro reply desk plan settings es l
  have hsplit : es = es.take 24 ++
      ⟨.note (.settled ⟨⟨"ATZ"⟩, .success, 1, 0, "OK\r\n"⟩), ()⟩ :: es.drop 25 := by
    unfold es
    cbv
  obtain ⟨hsettles, hown, hfound⟩ :=
    run_settled_by_own_reply Desk.fronts (by decide) rfl (by decide) hsplit
  have hnone := hfound fun reply hreply => by
    have hwhole : ∀ reply ∈ desk.modem.script, WholeReply reply.bytes := by decide
    exact (hwhole reply hreply).fits _
  exact ⟨hsettles, hnone, hown.mpr (.inl hnone)⟩

set_option maxRecDepth 2000 in
/-- The first reply holds more than its command needed, so the second command is refused by what is
left of it, although its own reply would have let it succeed. -/
theorem left_over_refuses :
    let reply : Bytes := Verdict.successToken ++ Verdict.failureToken
    let desk : Desk :=
      ⟨{ script := [⟨reply, 0⟩, ⟨Verdict.successToken, 0⟩], maxRead := some 4 },
        fun _ _ => 0, fun _ => 0, 0⟩
    let plan : Plan := ⟨.one .app 0 (by decide), [⟨"AT"⟩, ⟨"ATZ"⟩]⟩
    let settings : Settings := { pacing := { responseTimeout := 0, interCommandDelay := 0 } }
    let es := ((plan.run settings 9).run.play desk).exchanges
    let l := desk.modem.ledger.after (es.take 23)
    es = es.take 23 ++
        ⟨.note (.settled ⟨⟨"ATZ"⟩, .failure, 1, 0, "ERROR\r\nO"⟩), ()⟩ :: es.drop 24 ∧
      l.lines = 2 ∧ l.wait.found = Verdict.failureToken.map (1, ·) ∧
      l.wait.heard = Verdict.failureToken.map (1, ·) ++ [(2, 0x4F)] := by
  intro reply desk plan settings es l
  unfold l es
  refine ⟨?_, ?_, ?_, ?_⟩ <;> cbv

end Plan

end ModemBench
