import Mathlib
import ModemBench.Bench.World
import ModemBench.Proofs.ModemTraffic
import ModemBench.Proofs.Progress
/-!
What a run puts on the wire. However the port cuts its writes, the bytes it takes are the lines of
the records, each as often as it was sent, and at most a beginning of the line that is cut off.
-/

namespace ModemBench

/-- Whatever is offered, no more is taken. -/
def FairPort (σ : Type) [World σ] : Prop :=
  ∀ (bytes : Bytes) (w : σ) (n : Nat),
    (World.answer (.write bytes) w).1 = .ok n → n ≤ bytes.length

theorem FairPort.play {α σ : Type} [World σ] (fair : FairPort σ) (d : Dialogue α) (w : σ) :
    FairPlay (d.play w).exchanges := by
  induction d generalizing w with
  | done | halted =>
    intro e he
    cases he
  | ask q next ih =>
    intro e he
    rcases List.mem_cons.mp he with rfl | he
    · cases q with
      | write bytes =>
        change Exchange.Fair ⟨.write bytes, (World.answer (.write bytes) w).1⟩
        cases hn : (World.answer (.write bytes) w).1 with
        | ok n => exact fair bytes w n hn
        | error => trivial
      | _ => trivial
    · exact ih _ _ e he

theorem Rig.write_le {bytes : Bytes} {rig : Rig} {n : Nat} (h : (rig.write bytes).1 = .ok n) :
    n ≤ bytes.length := by
  simp only [Rig.write] at h
  split at h
  · cases h
    exact Nat.zero_le _
  · cases h
  · split at h
    · cases h
    · exact Modem.write_le h

theorem Bench.fair : FairPort Bench := fun _ _ _ => Rig.write_le

/-- What a record says was sent. -/
def Record.wires (r : Record) : Bytes := (List.replicate r.attempts r.command.wire).flatten

/-- How often a command may be sent. -/
def RunOptions.mostSent (options : RunOptions) : Nat :=
  if options.onTimeout = .retryOnce then 2 else 1

namespace Sequence

variable {line : Line} {options : RunOptions} {c : Command} {es : List Exchange}

/-- The first transmission, resent or not, is part of what may be sent. -/
theorem wire_begins (options : RunOptions) (c : Command) :
    c.wire <+: (List.replicate options.mostSent c.wire).flatten := by
  unfold RunOptions.mostSent
  split <;> simp [List.replicate_succ]

theorem taken_resending (c : Command) : (resending c).flatMap Exchange.taken = [] := rfl

theorem Settled.taken {attempts : Nat} {ending : Ending} {response : Bytes}
    (h : Settled line options c es (some (.ok (attempts, ending, response))))
    (fair : FairPlay es) :
    es.flatMap Exchange.taken = (List.replicate attempts c.wire).flatten := by
  cases h with
  | once first kept => simpa [List.replicate_succ] using first.taken (by simp) fair
  | twice first policy second =>
    simp only [FairPlay.append_iff] at fair
    have hfirst := first.taken (by simp) fair.1
    have hsecond := second.taken (by simp) fair.2.2
    simp [hfirst, hsecond, taken_resending, List.replicate_succ]

/-- The second transmission, cut off or not, goes on where the first has ended. -/
theorem Attempted.taken_again {es' : List Exchange} {lost : Bytes}
    {r : Option (Except LinkError (Ending × Bytes))}
    (first : Attempted line options c 1 es (some (.ok (.timedOut, lost))))
    (policy : options.onTimeout = .retryOnce) (second : Attempted line options c 2 es' r)
    (fair : FairPlay (es ++ (resending c ++ es'))) :
    (es ++ (resending c ++ es')).flatMap Exchange.taken <+:
      (List.replicate options.mostSent c.wire).flatten := by
  simp only [FairPlay.append_iff] at fair
  have hfirst := first.taken (by simp) fair.1
  have hsecond := second.taken_begins fair.2.2
  simpa [hfirst, taken_resending, RunOptions.mostSent, policy, List.replicate_succ] using hsecond

/-- Whatever happens to the command, no more than its lines is sent, and in order. -/
theorem Settled.taken_begins {r : Option (Except LinkError (Nat × Ending × Bytes))}
    (h : Settled line options c es r) (fair : FairPlay es) :
    es.flatMap Exchange.taken <+: (List.replicate options.mostSent c.wire).flatten := by
  cases h with
  | once first kept => exact (first.taken_begins fair).trans (wire_begins options c)
  | cut first => exact (first.taken_begins fair).trans (wire_begins options c)
  | halted first => exact (first.taken_begins fair).trans (wire_begins options c)
  | uncleared first policy e =>
    have hfirst := first.taken_begins (FairPlay.append_iff.mp fair).1
    have hall := hfirst.trans (wire_begins options c)
    simpa [Exchange.taken] using hall
  | twice first policy second => exact first.taken_again policy second fair
  | cutAgain first policy second => exact first.taken_again policy second fair
  | haltedAgain first policy second => exact first.taken_again policy second fair

theorem Executed.taken_begins {r : Option (Except LinkError Record)}
    (h : Executed line options c es r) (fair : FairPlay es) :
    es.flatMap Exchange.taken <+: (List.replicate options.mostSent c.wire).flatten := by
  cases h with
  | recorded start finish settled record =>
    simp only [FairPlay.cons_iff, FairPlay.append_iff] at fair
    simpa [Exchange.taken] using settled.taken_begins fair.2.1
  | cut start settled | halted start settled =>
    simpa [Exchange.taken] using settled.taken_begins (FairPlay.cons_iff.mp fair).2

theorem Stage.taken {r : Record} (h : Stage line options r es) (fair : FairPlay es) :
    es.flatMap Exchange.taken = r.wires := by
  obtain ⟨told, left, hnow, rfl⟩ := h
  have hpause : (pause options left).flatMap Exchange.taken = [] := by
    unfold pause
    split <;> rfl
  cases hnow with
  | recorded start finish settled record =>
    simp only [FairPlay.cons_iff, FairPlay.append_iff] at fair
    have hsettled := settled.taken fair.1.2.1
    rw [record]
    simp [hsettled, hpause, Exchange.taken, Record.wires]

theorem stages_taken {records : List Record} {segments : List (List Exchange)}
    (h : List.Forall₂ (Stage line options) records segments)
    (fair : FairPlay segments.flatten) :
    segments.flatten.flatMap Exchange.taken = records.flatMap Record.wires := by
  induction h with
  | nil => rfl
  | cons stage rest ih =>
    rw [List.flatten_cons, FairPlay.append_iff] at fair
    have hstage := stage.taken fair.1
    have hrest := ih fair.2
    simp only [List.flatten_cons, List.flatMap_append, List.flatMap_cons, hstage, hrest]

theorem Settled.attempts {attempts : Nat} {ending : Ending} {response : Bytes}
    (h : Settled line options c es (some (.ok (attempts, ending, response)))) :
    attempts ≤ options.mostSent := by
  cases h with
  | once first kept =>
    unfold RunOptions.mostSent
    split <;> decide
  | twice first policy second => simp [RunOptions.mostSent, policy]

theorem stages_attempts {records : List Record} {segments : List (List Exchange)}
    (h : List.Forall₂ (Stage line options) records segments) :
    ∀ r ∈ records, r.attempts ≤ options.mostSent := by
  have hboth := h.imp fun r es (stage : Stage line options r es) =>
    show r.attempts ≤ options.mostSent ∧ True by
      obtain ⟨told, left, hnow, rfl⟩ := stage
      cases hnow with
      | recorded start finish settled record =>
        rw [record]
        exact ⟨settled.attempts, trivial⟩
  exact ((List.forall₂_and_left _ _).mp hboth).1

/-- The bytes that a fair port takes in a run that ends are exactly the lines of the records, each
as often as its record says. Where the link broke, a beginning of what the command under way may
be sent follows, and nothing else. -/
theorem run_taken {σ : Type} [World σ] (fair : FairPort σ) (line : Line) (options : RunOptions)
    (patience : Nat) (commands : List Command) (w : σ) :
    (∀ report, ((run line options patience commands).run.play w).result = some (.ok report) →
      ((run line options patience commands).run.play w).exchanges.flatMap Exchange.taken =
        report.records.flatMap Record.wires ∧
      report.records.map Record.command <+: commands ∧
      (∀ r ∈ report.records.dropLast, r.ending = .success) ∧
      ∀ r ∈ report.records, r.attempts ≤ options.mostSent) ∧
    (∀ i, ((run line options patience commands).run.play w).result = some (.error i) →
      ∃ c rest, commands[i.position - 1]? = some c ∧
        ((run line options patience commands).run.play w).exchanges.flatMap Exchange.taken =
          i.records.flatMap Record.wires ++ rest ∧
        rest <+: (List.replicate options.mostSent c.wire).flatten ∧
        i.records.map Record.command = commands.take (i.position - 1) ∧
        (∀ r ∈ i.records, r.ending = .success) ∧
        ∀ r ∈ i.records, r.attempts ≤ options.mostSent) := by
  have hrun := run_course (Dialogue.play_transcript (run line options patience commands).run w)
  have hfair := fair.play (run line options patience commands).run w
  generalize ((run line options patience commands).run.play w).exchanges = es at hrun hfair ⊢
  generalize ((run line options patience commands).run.play w).result = result at hrun ⊢
  cases hrun with
  | reported course hreport =>
    subst hreport
    obtain ⟨new, segments, hnew, rfl, hstages, hstop⟩ := course.stop
    obtain rfl := hnew
    refine ⟨?_, by simp⟩
    intro report hr
    cases hr
    refine ⟨?_, ?_, ?_, stages_attempts hstages⟩
    · simp only [FairPlay.cons_iff, FairPlay.append_iff] at hfair
      have htaken := stages_taken hstages hfair.2.1
      simp [htaken, Exchange.taken]
    · exact hstop.told
    · exact hstop.good
  | cut course =>
    obtain ⟨new, segments, c, left, last, cause, rfl, rfl, hgood, rfl, hstages, hlast⟩ :=
      course.broken
    refine ⟨by simp, ?_⟩
    intro i hr
    cases hr
    simp only [FairPlay.cons_iff, FairPlay.append_iff] at hfair
    have htaken := stages_taken hstages hfair.2.1
    refine ⟨c, last.flatMap Exchange.taken, by simp, ?_,
      hlast.taken_begins hfair.2.2, by simp, hgood,
      stages_attempts hstages⟩
    simp [htaken, Exchange.taken]
  | halted course => simp

/-- The port takes three bytes at most, and none at the fourth write. -/
theorem stalled_run_taken :
    let bench : Bench :=
      { rig.modem.script := [⟨Verdict.successToken, 0⟩], rig.modem.maxWrite := some 3,
        rig.faults := [((.write, 4), .nothing)] }
    let played := (run ⟨"M", false⟩ ⟨none, 0, .abort⟩ 3 [⟨"AT"⟩, ⟨"ATZ"⟩]).run.play bench
    let record : Record := ⟨⟨"AT"⟩, .success, 1, 0, "OK\r\n"⟩
    FairPort Bench ∧
      played.result = some (.error ⟨2, 2, [record], .writeStalled "M" 3 5⟩) ∧
      ∃ rest, played.exchanges.flatMap Exchange.taken = record.wires ++ rest ∧
        rest <+: Command.wire ⟨"ATZ"⟩ := by
  intro bench played record
  have h : played.result = some (.error ⟨2, 2, [record], .writeStalled "M" 3 5⟩) := by cbv
  refine ⟨Bench.fair, h, ?_⟩
  obtain ⟨c, rest, hc, htaken, hrest, -⟩ := (run_taken Bench.fair _ _ _ _ _).2 _ h
  cases hc
  exact ⟨rest, by simpa using htaken, by simpa [RunOptions.mostSent] using hrest⟩

end Sequence

end ModemBench
