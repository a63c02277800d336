import Mathlib.Data.List.Forall2
import ModemBench.Proofs.Transmission
/-!
The progress of a run: the commands that got a record, stage by stage, and where it stops. It
stops behind the last command, at one that did not succeed, or within one that is cut off.
-/

namespace ModemBench

namespace Sequence

/-- The exchanges of a command that got a record, with the pause behind them if there is one. -/
def Stage (line : Line) (options : RunOptions) (r : Record) (es : List Exchange) : Prop :=
  ∃ told left, Executed line options r.command told (some (.ok r)) ∧ es = told ++ pause options left

theorem Executed.command {line : Line} {options : RunOptions} {c : Command} {es : List Exchange}
    {r : Record} (h : Executed line options c es (some (.ok r))) : r.command = c := by
  cases h with
  | recorded start finish settled record => rw [record]

theorem Executed.stage {line : Line} {options : RunOptions} {c : Command} {es : List Exchange}
    {r : Record} (h : Executed line options c es (some (.ok r))) : Stage line options r es :=
  ⟨es, [], h.command.symm ▸ h, by simp [pause]⟩

/-- The status of a run that stops at a command with this ending. -/
inductive Halts (position total : Nat) : Ending → Status → Prop where
  | failed : Halts position total .failure (.failed position total)
  | timedOut : Halts position total .timedOut (.timedOut position total)

theorem Halts.stops {position total : Nat} {ending : Ending} {status : Status}
    (h : Halts position total ending status) :
    ending ≠ .success ∧ (∀ n, status ≠ .completed n) ∧ status.isCompleted = false := by
  cases h <;> exact ⟨by simp, by simp, rfl⟩

/-- How the records of the commands left and the status fit together, `n` records after the
start of a run of `total` commands. -/
inductive Stop (total n : Nat) (commands : List Command) : List Record → Status → Prop where
  | completed (good : ∀ r ∈ records, r.ending = .success)
      (all : records.map Record.command = commands) :
      Stop total n commands records (.completed total)
  | halted {before : List Record} {last : Record} {status : Status}
      (good : ∀ r ∈ before, r.ending = .success)
      (halt : Halts (n + before.length + 1) total last.ending status)
      (told : (before ++ [last]).map Record.command <+: commands) :
      Stop total n commands (before ++ [last]) status

theorem Stop.cons {total n : Nat} {left : List Command} {records : List Record} {status : Status}
    {r : Record} (hr : r.ending = .success) (h : Stop total (n + 1) left records status) :
    Stop total n (r.command :: left) (r :: records) status := by
  have hcons : ∀ before : List Record, (∀ r ∈ before, r.ending = .success) →
      ∀ q ∈ r :: before, q.ending = .success := by
    intro before good q hq
    rcases List.mem_cons.mp hq with rfl | hq
    · exact hr
    · exact good q hq
  cases h with
  | completed good all => exact .completed (hcons _ good) (by simp [all])
  | @halted before last status good halt told =>
    refine .halted (hcons before good) ?_ (List.cons_prefix_cons.mpr ⟨rfl, told⟩)
    rw [List.length_cons]
    rwa [Nat.add_assoc n 1, Nat.add_comm 1] at halt

theorem Stop.single {total n : Nat} {left : List Command} {status : Status} {r : Record}
    (halt : Halts (n + 1) total r.ending status) :
    Stop total n (r.command :: left) [r] status := by
  have hgood : ∀ q ∈ ([] : List Record), q.ending = .success := by simp
  exact .halted hgood halt (by simp)

theorem Stop.told {total n : Nat} {commands : List Command} {records : List Record}
    {status : Status} (h : Stop total n commands records status) :
    records.map Record.command <+: commands := by
  cases h with
  | completed good all => exact all ▸ List.prefix_rfl
  | halted good halt told => exact told

theorem Stop.good {total n : Nat} {commands : List Command} {records : List Record}
    {status : Status} (h : Stop total n commands records status) :
    ∀ r ∈ records.dropLast, r.ending = .success := by
  cases h with
  | completed good all => exact fun r hr => good r (List.dropLast_subset _ hr)
  | halted good halt told =>
    rw [List.dropLast_concat]
    exact good

theorem Advanced.stop {line : Line} {options : RunOptions} {total : Nat}
    {records all : List Record} {commands : List Command} {es : List Exchange} {status : Status}
    (h : Advanced line options total records commands es (some (.ok (status, all)))) :
    ∃ new segments, all = records ++ new ∧ es = segments.flatten ∧
      List.Forall₂ (Stage line options) new segments ∧
      Stop total records.length commands new status := by
  generalize hr : some (Except.ok (status, all)) = r at h
  induction h with
  | finished =>
    cases hr
    exact ⟨[], [], by simp, rfl, .nil, .completed (by simp) rfl⟩
  | @success c es record records left es' r now good rest ih =>
    obtain ⟨new, segments, rfl, rfl, hstages, hstop⟩ := ih hr
    obtain rfl := now.command
    rw [List.length_append] at hstop
    exact ⟨record :: new, (es ++ pause options left) :: segments, by simp, by simp,
      .cons ⟨es, left, now, rfl⟩ hstages, hstop.cons good⟩
  | failure now bad =>
    cases hr
    obtain rfl := now.command
    exact ⟨[_], [_], rfl, (List.append_nil _).symm, .cons now.stage .nil, .single (bad ▸ .failed)⟩
  | timedOut now late =>
    cases hr
    obtain rfl := now.command
    exact ⟨[_], [_], rfl, (List.append_nil _).symm, .cons now.stage .nil,
      .single (late ▸ .timedOut)⟩
  | cut | halted => cases hr

/-- The commands before the one that is cut off all succeeded, and all their records are kept. -/
theorem Advanced.broken {line : Line} {options : RunOptions} {total : Nat}
    {records : List Record} {commands : List Command} {es : List Exchange} {i : Interruption}
    (h : Advanced line options total records commands es (some (.error i))) :
    ∃ new segments c left last cause,
      i = ⟨records.length + new.length + 1, total, records ++ new, cause⟩ ∧
      commands = new.map Record.command ++ c :: left ∧ (∀ r ∈ new, r.ending = .success) ∧
      es = segments.flatten ++ last ∧ List.Forall₂ (Stage line options) new segments ∧
      Executed line options c last (some (.error cause)) := by
  generalize hr : some (Except.error i) = r at h
  induction h with
  | finished | failure | timedOut | halted => cases hr
  | @success c es record records left es' r now good rest ih =>
    obtain ⟨new, segments, c', left', last, cause, rfl, hleft, hgood, rfl, hstages, hlast⟩ := ih hr
    obtain rfl := now.command
    refine ⟨record :: new, (es ++ pause options left) :: segments, c', left', last, cause, ?_, ?_,
      ?_, by simp, .cons ⟨es, left, now, rfl⟩ hstages, hlast⟩
    · simp [Nat.add_assoc, Nat.add_comm 1]
    · rw [hleft]
      rfl
    · intro r hr
      rcases List.mem_cons.mp hr with rfl | hr
      · exact good
      · exact hgood r hr
  | cut now =>
    cases hr
    exact ⟨[], [], _, _, _, _, by simp, rfl, by simp, rfl, .nil, now⟩

end Sequence

end ModemBench
