import Mathlib
import ModemBench.Bench.World
import ModemBench.Proofs.Progress
/-!
The shape of a report. Its records tell of the first commands, in order; all but the last
succeeded, and the status, the count and the exit code say how the last one ended. What each
record tells of its transmissions is what the port was asked and gave.
-/

namespace ModemBench

namespace Sequence

/-- The exchanges that a record tells of. A second transmission follows only one that expired,
and the last one decides the ending and the response. -/
inductive Told (options : RunOptions) (r : Record) : List Exchange → Prop where
  | once (only : Transmission r.command 1 es) (count : r.attempts = 1)
      (ending : r.ending = verdictOn (es.flatMap Exchange.given))
      (response : r.response = Text.decode (es.flatMap Exchange.given))
      (expired : r.ending = .timedOut →
        options.onTimeout ≠ .retryOnce ∧ Expired options r.command es) :
      Told options r
        (⟨.clock, start⟩ :: (es ++ [⟨.clock, finish⟩, ⟨.note (.settled r), ()⟩]))
  | twice (first : Transmission r.command 1 es) (expired : Expired options r.command es)
      (policy : options.onTimeout = .retryOnce) (second : Transmission r.command 2 es')
      (count : r.attempts = 2) (ending : r.ending = verdictOn (es'.flatMap Exchange.given))
      (response : r.response = Text.decode (es'.flatMap Exchange.given))
      (expiredAgain : r.ending = .timedOut → Expired options r.command es') :
      Told options r
        (⟨.clock, start⟩ :: (es ++ (resending r.command ++ es') ++
          [⟨.clock, finish⟩, ⟨.note (.settled r), ()⟩]))

theorem Executed.told {line : Line} {options : RunOptions} {c : Command} {es : List Exchange}
    {r : Record} (h : Executed line options c es (some (.ok r))) : Told options r es := by
  cases h with
  | recorded start finish settled record =>
    subst record
    cases settled with
    | once first kept =>
      obtain ⟨hresponse, hending⟩ := first.heard
      subst hresponse
      refine .once first.transmission rfl hending rfl ?_
      intro hlate
      cases hlate
      exact ⟨kept rfl, first.expired⟩
    | twice first policy second =>
      obtain ⟨hresponse, hending⟩ := second.heard
      subst hresponse
      refine .twice first.transmission first.expired policy second.transmission rfl hending rfl ?_
      intro hlate
      cases hlate
      exact second.expired

/-- The exchanges of a record, with the pause behind them if there is one. -/
def Episode (options : RunOptions) (r : Record) (es : List Exchange) : Prop :=
  ∃ told, Told options r told ∧ (es = told ∨ es = told ++ [⟨.sleep options.delay, ()⟩])

theorem Stage.episode {line : Line} {options : RunOptions} {r : Record} {es : List Exchange}
    (h : Stage line options r es) : Episode options r es := by
  obtain ⟨told, left, hnow, rfl⟩ := h
  refine ⟨told, hnow.told, ?_⟩
  unfold pause
  split
  · exact .inr rfl
  · exact .inl (List.append_nil told)

/-- What status, count, records and exit code of a report say together. -/
structure Shaped (commands : List Command) (report : Report) : Prop where
  within : report.records.length ≤ commands.length
  ordered : report.records.map Record.command = commands.take report.records.length
  good : ∀ r ∈ report.records.dropLast, r.ending = .success
  completed : report.status = .completed commands.length ↔
    report.records.length = commands.length ∧ ∀ r ∈ report.records, r.ending = .success
  counted : report.status = .completed commands.length → report.succeeded = commands.length
  halted : report.status ≠ .completed commands.length → 1 ≤ report.records.length ∧
    report.succeeded = report.records.length - 1 ∧
    ∃ last, report.records.getLast? = some last ∧
      Halts report.records.length commands.length last.ending report.status
  exit : report.exitCode = 0 ↔
    report.records.map Record.command = commands ∧ ∀ r ∈ report.records, r.ending = .success

theorem Stop.shaped {commands : List Command} {records : List Record} {status : Status}
    (h : Stop commands.length 0 commands records status) :
    Shaped commands ⟨status, records.countP (·.ending = .success), records⟩ := by
  have hordered : records.map Record.command = commands.take records.length := by
    have := List.prefix_iff_eq_take.mp h.told
    rwa [List.length_map] at this
  have hwithin : records.length ≤ commands.length := by
    have := h.told.length_le
    rwa [List.length_map] at this
  have hcount : ∀ records : List Record, (∀ r ∈ records, r.ending = .success) →
      records.countP (·.ending = .success) = records.length := by
    intro records good
    exact List.countP_eq_length.mpr (by simpa using good)
  have hgood := h.good
  cases h with
  | completed good all =>
    have hlength : records.length = commands.length := by rw [← all, List.length_map]
    refine ⟨hwithin, hordered, hgood, ?_, ?_, ?_, ?_⟩
    · exact ⟨fun _ => ⟨hlength, good⟩, fun _ => rfl⟩
    · intro _
      exact (hcount records good).trans hlength
    · intro hne
      exact absurd rfl hne
    · exact ⟨fun _ => ⟨all, good⟩, fun _ => rfl⟩
  | @halted before last status good halt told =>
    obtain ⟨hbad, hstatus, hcompleted⟩ := halt.stops
    have hnot : ¬ ∀ r ∈ before ++ [last], r.ending = .success :=
      fun hall => hbad (hall last (by simp))
    refine ⟨hwithin, hordered, hgood, ?_, ?_, ?_, ?_⟩
    · exact ⟨fun hc => absurd hc (hstatus _), fun hall => absurd hall.2 hnot⟩
    · intro hc
      exact absurd hc (hstatus _)
    · intro _
      refine ⟨by simp, by simp [hcount before good, hbad], last, by simp, ?_⟩
      simpa using halt
    · have hexit : (if status.isCompleted then 0 else 1) ≠ 0 := by simp [hcompleted]
      exact ⟨fun he => absurd he hexit, fun hall => absurd hall.2 hnot⟩

/-- A command is sent twice only under the policy that says so, which leaves no command with
one transmission that timed out. -/
theorem Told.attempts {options : RunOptions} {r : Record} {es : List Exchange}
    (h : Told options r es) :
    (r.attempts = 1 ∨ r.attempts = 2 ∧ options.onTimeout = .retryOnce) ∧
      (options.onTimeout = .retryOnce → r.ending = .timedOut → r.attempts = 2) := by
  cases h with
  | once only count ending response expired =>
    exact ⟨.inl count, fun policy hlate => absurd policy (expired hlate).1⟩
  | twice first expired policy second count ending response expiredAgain =>
    exact ⟨.inr ⟨count, policy⟩, fun _ _ => count⟩

/-- Whatever the port and the clock do: a report has its shape, a command is sent twice only
under the policy that says so and after a first transmission that expired, and the exchanges of
the run are those that the records tell of. -/
theorem run_report_shaped {σ : Type} [World σ] {line : Line} {options : RunOptions}
    {patience : Nat} {commands : List Command} {w : σ} {report : Report}
    (h : ((run line options patience commands).run.play w).result = some (.ok report)) :
    Shaped commands report ∧
      (∀ r ∈ report.records, r.attempts = 1 ∨ r.attempts = 2 ∧ options.onTimeout = .retryOnce) ∧
      (options.onTimeout = .retryOnce →
        ∀ r ∈ report.records, r.ending = .timedOut → r.attempts = 2) ∧
      ∃ segments, List.Forall₂ (Episode options) report.records segments ∧
        ((run line options patience commands).run.play w).exchanges =
          ⟨.note (.starting commands.length line.port), ()⟩ :: (segments.flatten ++
            [⟨.note (.finished report.succeeded commands.length report.status), ()⟩]) := by
  have hrun := run_course (Dialogue.play_transcript (run line options patience commands).run w)
  rw [h] at hrun
  generalize ((run line options patience commands).run.play w).exchanges = es at hrun ⊢
  cases hrun with
  | @reported es status records _ course hreport =>
    subst hreport
    obtain ⟨new, segments, rfl, rfl, hstages, hstop⟩ := course.stop
    have hepisodes := hstages.imp fun r es => Stage.episode
    have hattempts := ((List.forall₂_and_left _ _).mp
      (hepisodes.imp fun r es episode => ⟨episode.choose_spec.1.attempts, episode⟩)).1
    exact ⟨hstop.shaped, fun r hr => (hattempts r hr).1,
      fun policy r hr => (hattempts r hr).2 policy, segments, hepisodes, rfl⟩

/-- The first reply is empty and no time is given, so the command is sent once more. -/
theorem resent_report_shaped :
    let bench : Bench := { rig.modem.script := [⟨[], 0⟩, ⟨Verdict.successToken, 0⟩] }
    let played := (run ⟨"M", false⟩ ⟨some 0, 0, .retryOnce⟩ 3 [⟨"AT"⟩]).run.play bench
    let report : Report := ⟨.completed 1, 1, [⟨⟨"AT"⟩, .success, 2, 0, "OK\r\n"⟩]⟩
    played.result = some (.ok report) ∧ Shaped [⟨"AT"⟩] report := by
  intro bench played report
  have h : played.result = some (.ok report) := by cbv
  exact ⟨h, (run_report_shaped h).1⟩

end Sequence

end ModemBench
