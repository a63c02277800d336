import Mathlib
import ModemBench.Proofs.Hearing
/-!
Late replies and second transmissions. What the first transmission of a command released is dropped
before the second if it has landed by then. Only a reply that is still underway can be heard
afterwards.
-/

namespace ModemBench

namespace Ledger

/-- The reply to the last line, where it is still underway, is the one that was due, and the empty
reads since have brought it nearer without landing it. -/
def Owes (l : Ledger) : Prop :=
  ∀ u ∈ l.underway, u.1 = l.lines →
    ∃ reply, l.wait.due = some reply ∧ u.2.delay ≠ 0 ∧ u.2.delay + l.wait.silent = reply.delay

theorem mem_underway_line (l : Ledger) {u : Nat × Reply} (h : u ∈ l.line.underway) :
    u ∈ l.underway ∨ l.script.head? = some u.2 ∧ u.2.delay ≠ 0 := by
  unfold line at h
  dsimp only at h
  split at h
  · exact .inl h
  · next r rest hscript =>
    split at h
    · exact .inl h
    · next hdelay =>
      rcases List.mem_append.mp h with h | h
      · exact .inl h
      · cases List.mem_singleton.mp h
        exact .inr ⟨by rw [hscript]; rfl, hdelay⟩

theorem Dated.owes_line {l : Ledger} (h : l.Dated) : l.started.line.Owes := by
  intro u hu he
  rcases l.started.mem_underway_line hu with hold | ⟨hscript, hdelay⟩
  · have hle := h.underway u hold
    rw [he, lines_line] at hle
    exact absurd hle (Nat.not_succ_le_self _)
  · refine ⟨u.2, ?_, hdelay, ?_⟩
    · rw [wait_line]
      exact hscript
    · rw [wait_line]
      rfl

theorem Owes.read {l : Ledger} (h : l.Owes) (cap : Nat) (answer : Except PortError Bytes) :
    (l.next ⟨.read cap, answer⟩).Owes := by
  cases answer with
  | ok bytes => exact h
  | error e =>
    intro u hu he
    obtain ⟨hu, hdelay⟩ := List.mem_filter.mp hu
    obtain ⟨v, hv, rfl⟩ := List.mem_map.mp hu
    obtain ⟨reply, hdue, hleft, hsum⟩ := h v hv he
    refine ⟨reply, hdue, by simpa using hdelay, ?_⟩
    change v.2.delay - 1 + (l.wait.silent + 1) = reply.delay
    omega

end Ledger

namespace Sequence

variable {line : Line} {options : RunOptions} {c : Command} {l : Ledger} {m m' : Modem}

theorem Attempted.owes {number : Nat} {es : List Exchange} {ending : Ending} {response : Bytes}
    (h : Attempted line options c number es (some (.ok (ending, response))))
    (hc : '\n' ∉ c.line.toList) (dated : l.Dated) (served : m.Served es m') :
    (l.after es).Owes := by
  obtain ⟨due, front, wait, m₁, rfl, gathered, -, -, hfront⟩ := h.waits hc served
  rw [Ledger.after_append, hfront]
  exact gathered.preserves (fun l answer hl => hl.read _ answer) dated.owes_line

/-- A record tells of what was heard. Before a second transmission nothing waits, and the reply to
the first may be underway only if the reads did not last for it. -/
structure Resends (l : Ledger) (e : Exchange) : Prop where
  settled : ∀ r, e = ⟨.note (.settled r), ()⟩ → Settles (l.wait.heard.map Prod.snd) r
  again : ∀ c, e = ⟨.note (.sending c 2), ()⟩ → l.waiting = [] ∧ l.Owes

theorem Resends.of_unmarked (l : Ledger) (e : Exchange) (h : e.marks = false) : Resends l e := by
  constructor <;>
  · rintro _ rfl
    cases h

theorem upholds_resends {commands : List Command} (hc : ∀ c ∈ commands, '\n' ∉ c.line.toList) :
    Upholds line options Resends (fun l m => l.Tells m ∧ l.Dated) commands := by
  rintro c hmem es r l m m' now ⟨tells, dated⟩ served
  refine ⟨now.always served Resends.of_unmarked ?_ ?_ ?_, ?_⟩
  · constructor <;> rintro _ ⟨⟩
  · intro first lost m₁ hfirst hserved
    refine ⟨by rintro _ ⟨⟩, fun _ _ => ⟨rfl, ?_⟩⟩
    exact hfirst.owes (hc c hmem) dated hserved
  · intro during attempts ending response m₁ elapsed settled hserved
    refine ⟨?_, by rintro _ ⟨⟩⟩
    rintro _ ⟨⟩
    exact settled.settles tells hserved elapsed
  · exact fun _ _ _ => ⟨tells.after served, dated.after es⟩

/-- A reply that could land in the wait of a first transmission is never heard later: no byte of it
reaches the record of that command or of one after it. -/
theorem run_landed_reply_dropped {σ : Type} [World σ] {modem : σ → Modem} (fronts : Fronts modem)
    {patience : Nat} {commands : List Command} (hc : ∀ c ∈ commands, '\n' ∉ c.line.toList) {w : σ}
    {front later rest : List Exchange} {r : Record}
    (split : ((run line options patience commands).run.play w).exchanges =
      front ++ ⟨.note (.sending c 2), ()⟩ :: (later ++ ⟨.note (.settled r), ()⟩ :: rest)) :
    let again := (modem w).ledger.after front
    let settling := again.started.after later
    Settles (settling.wait.heard.map Prod.snd) r ∧
      ((∀ reply, again.wait.due = some reply → reply.delay ≤ again.wait.silent) →
        ∀ b ∈ settling.wait.heard, b.1 ≠ again.lines) := by
  intro again settling
  have hrun := run_course (Dialogue.play_transcript (run line options patience commands).run w)
  have hserved := fronts.play (run line options patience commands).run w
  have halways := hrun.always Resends.of_unmarked (upholds_resends hc)
    ⟨(modem w).ledger_tells, (modem w).ledger_dated⟩ hserved
  obtain ⟨hwaiting, howes⟩ : again.waiting = [] ∧ again.Owes :=
    (halways _ _ _ split).again c rfl
  have hsettled := halways (front ++ ⟨.note (.sending c 2), ()⟩ :: later)
    ⟨.note (.settled r), ()⟩ rest (by simp [split])
  refine ⟨?_, ?_⟩
  · have := hsettled.settled r rfl
    rwa [Ledger.after_append, Ledger.after_cons] at this
  · intro hlanded
    have hgone : again.started.All (· ≠ again.lines) := by
      refine ⟨?_, ?_, List.forall_mem_nil _⟩
      · change ∀ b ∈ again.waiting, _
        rw [hwaiting]
        exact List.forall_mem_nil _
      · intro u hu he
        obtain ⟨reply, hdue, hleft, hsum⟩ := howes u hu he
        have hdelay := hlanded reply hdue
        omega
    exact (hgone.after later fun k hk => Nat.ne_of_gt hk).heard

set_option maxRecDepth 8000 in
/-- The first reply lands with the last read of its wait, and the second answers the command. -/
theorem dropped_reply_resent :
    let desk : Desk := ⟨{ script := [⟨Verdict.failureToken, 2⟩, ⟨Verdict.successToken, 0⟩] },
      fun call _ => if call = .read then 1000 else 0, fun _ => 0, 0⟩
    let es := ((run ⟨"M", false⟩ ⟨some 2, 0, .retryOnce⟩ 9 [⟨"AT"⟩]).run.play desk).exchanges
    let record : Record := ⟨⟨"AT"⟩, .success, 2, 3, "OK\r\n"⟩
    let again := desk.modem.ledger.after (es.take 15)
    let settling := again.started.after ((es.drop 16).take 8)
    again.wait.due = some ⟨Verdict.failureToken, 2⟩ ∧ again.wait.silent = 2 ∧
      Settles (settling.wait.heard.map Prod.snd) record ∧
      ∀ b ∈ settling.wait.heard, b.1 ≠ again.lines := by
  intro desk es record again settling
  have hsplit : es = es.take 15 ++ ⟨.note (.sending ⟨"AT"⟩ 2), ()⟩ ::
      ((es.drop 16).take 8 ++ ⟨.note (.settled record), ()⟩ :: es.drop 25) := by
    unfold es
    cbv
  have hdue : again.wait.due = some ⟨Verdict.failureToken, 2⟩ := by
    unfold again es
    cbv
  have hsilent : again.wait.silent = 2 := by
    unfold again es
    cbv
  obtain ⟨hsettles, hheard⟩ := run_landed_reply_dropped Desk.fronts (by decide) hsplit
  refine ⟨hdue, hsilent, hsettles, hheard ?_⟩
  intro reply hreply
  cases hdue.symm.trans hreply
  exact Nat.le_of_eq hsilent.symm

set_option maxRecDepth 8000 in
/-- A reply that lands one read later settles the second transmission, which released nothing. -/
theorem late_reply_settles :
    let desk : Desk := ⟨{ script := [⟨Verdict.successToken, 3⟩] },
      fun call _ => if call = .read then 1000 else 0, fun _ => 0, 0⟩
    let es := ((run ⟨"M", false⟩ ⟨some 2, 0, .retryOnce⟩ 9 [⟨"AT"⟩]).run.play desk).exchanges
    let record : Record := ⟨⟨"AT"⟩, .success, 2, 4, "OK\r\n"⟩
    let again := desk.modem.ledger.after (es.take 15)
    let settling := again.started.after ((es.drop 16).take 10)
    es = es.take 15 ++ ⟨.note (.sending ⟨"AT"⟩ 2), ()⟩ ::
      ((es.drop 16).take 10 ++ ⟨.note (.settled record), ()⟩ :: es.drop 27) ∧
      again.wait.due = some ⟨Verdict.successToken, 3⟩ ∧ again.wait.silent = 2 ∧
      settling.wait.heard = Verdict.successToken.map (again.lines, ·) := by
  intro desk es record again settling
  unfold settling again es
  refine ⟨?_, ?_, ?_, ?_⟩ <;> cbv

end Sequence

end ModemBench
