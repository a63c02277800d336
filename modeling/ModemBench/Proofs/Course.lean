import ModemBench.Proofs.LineCourse
import ModemBench.Sequence.Run
/-!
The courses of a run: what waiting for a reply, one transmission, one command and the commands
left may exchange with the world, and what each then ends with. A run that is still going when
patience ends has no result, and neither has one that needs a time that the clock cannot tell.
-/

namespace ModemBench

namespace Sequence

/-- A look at the clock that finds time left, if there is a deadline. -/
inductive Early : Option Nat → List Exchange → Prop where
  | never : Early none []
  | soon (left : now < time) : Early (some time) [⟨.clock, now⟩]

theorem Early.quiet (h : Early deadline es) : Quiet es := by
  cases h with
  | never => exact .nil
  | soon left => exact .clock _

/-- The wait for a terminal token, after `received`. -/
inductive Gathered (line : Line) (deadline : Option Nat) :
    Bytes → List Exchange → Option (Except LinkError (Ending × Bytes)) → Prop where
  | impatient : Gathered line deadline received [] none
  | failed (read : Received line es (.error cause)) :
      Gathered line deadline received es (some (.error cause))
  | settled (read : Received line es (.ok chunk))
      (token : Verdict.of? (received ++ chunk) = some verdict) :
      Gathered line deadline received es (some (.ok (verdict.ending, received ++ chunk)))
  | late (read : Received line es (.ok chunk)) (unsettled : Verdict.of? (received ++ chunk) = none)
      (bound : deadline = some time) (past : time ≤ now) :
      Gathered line deadline received (es ++ [⟨.clock, now⟩])
        (some (.ok (.timedOut, received ++ chunk)))
  | again (read : Received line es (.ok chunk))
      (unsettled : Verdict.of? (received ++ chunk) = none) (early : Early deadline look)
      (rest : Gathered line deadline (received ++ chunk) es' r) :
      Gathered line deadline received (es ++ (look ++ es')) r

theorem overdue_course {deadline : Option Nat} {es : List Exchange} {r : Option Bool}
    (h : Transcript (overdue deadline) es r) :
    ∃ late, r = some late ∧
      if late then ∃ time now, deadline = some time ∧ es = [⟨.clock, now⟩] ∧ time ≤ now
      else Early deadline es := by
  cases deadline with
  | none =>
    cases h
    exact ⟨false, rfl, .never⟩
  | some time =>
    cases h with
    | ask now rest =>
      cases rest
      by_cases hnow : time ≤ now
      · exact ⟨true, by rw [decide_eq_true hnow], time, now, rfl, rfl, hnow⟩
      · exact ⟨false, by rw [decide_eq_false hnow], .soon (Nat.lt_of_not_le hnow)⟩

theorem gather_course {line : Line} {deadline : Option Nat} {patience : Nat} {received : Bytes}
    {es : List Exchange} {r : Option (Except LinkError (Ending × Bytes))}
    (h : Transcript (gather line deadline patience received).run es r) :
    Gathered line deadline received es r := by
  induction patience generalizing received es with
  | zero =>
    cases h
    exact .impatient
  | succ patience ih =>
    rcases Transcript.of_sure_step Line.receive_course h with
      ⟨chunk, first, second, rfl, hread, hnext⟩ | ⟨cause, hread, rfl⟩
    · cases hv : Verdict.of? (received ++ chunk) with
      | some verdict =>
        simp only [hv] at hnext
        obtain ⟨rfl, rfl⟩ := Transcript.of_pure hnext
        rw [List.append_nil]
        exact .settled hread hv
      | none =>
        simp only [hv] at hnext
        obtain ⟨late, look, rest, rfl, hlook, hrest⟩ :=
          Transcript.of_sure_lift overdue_course hnext
        cases late with
        | true =>
          obtain ⟨time, now, hd, rfl, hnow⟩ := hlook
          obtain ⟨rfl, rfl⟩ := Transcript.of_pure hrest
          exact .late hread hv hd hnow
        | false => exact .again hread hv hlook (ih hrest)
    · exact .failed hread

/-- Setting the deadline of a wait, if the clock can tell it. -/
inductive Due : Option Nat → List Exchange → Option (Option Nat) → Prop where
  | never : Due none [] (some none)
  | set (now : Nat) :
      Due (some duration) [⟨.clock, now⟩, ⟨.tellable (now + duration * 1000), true⟩]
        (some (some (now + duration * 1000)))
  | overflow (now : Nat) :
      Due (some duration) [⟨.clock, now⟩, ⟨.tellable (now + duration * 1000), false⟩] none

theorem Due.quiet (h : Due deadline es due) : Quiet es := by
  cases h with
  | never => exact .nil
  | set now | overflow now => exact .deadline now _ _

theorem dueIn_course {deadline : Option Nat} {es : List Exchange} {r : Option (Option Nat)}
    (h : Transcript (dueIn deadline) es r) : Due deadline es r := by
  cases deadline with
  | none =>
    cases h
    exact .never
  | some duration =>
    cases h with
    | ask now rest =>
      cases rest with
      | ask possible last =>
        cases possible <;> cases last
        · exact .overflow now
        · exact .set now

/-- One transmission of a command and the wait after it. -/
inductive Attempted (line : Line) (options : RunOptions) (c : Command) (number : Nat) :
    List Exchange → Option (Except LinkError (Ending × Bytes)) → Prop where
  | unsent (send : Sent line c es (.error cause)) :
      Attempted line options c number (⟨.note (.sending c number), ()⟩ :: es) (some (.error cause))
  | beyond (send : Sent line c es (.ok ())) (far : Due options.deadline look none) :
      Attempted line options c number
        (⟨.note (.sending c number), ()⟩ :: (es ++ ⟨.note (.awaiting c), ()⟩ :: look)) none
  | sent (send : Sent line c es (.ok ())) (set : Due options.deadline look (some due))
      (wait : Gathered line due [] es' r) :
      Attempted line options c number
        (⟨.note (.sending c number), ()⟩ :: (es ++ ⟨.note (.awaiting c), ()⟩ :: (look ++ es'))) r

theorem attempt_course {line : Line} {options : RunOptions} {patience : Nat} {c : Command}
    {number : Nat} {es : List Exchange} {r : Option (Except LinkError (Ending × Bytes))}
    (h : Transcript (attempt line options patience c number).run es r) :
    Attempted line options c number es r := by
  obtain ⟨⟨⟩, es, rfl, hrest⟩ := Transcript.of_perform h
  rcases Transcript.of_sure_step Line.send_course hrest with
    ⟨⟨⟩, first, second, rfl, hsend, hafter⟩ | ⟨cause, hsend, rfl⟩
  · obtain ⟨⟨⟩, rest, rfl, hset⟩ := Transcript.of_perform hafter
    rcases Transcript.of_lift hset with ⟨due, look, rest, rfl, hdue, hwait⟩ | ⟨hfar, rfl⟩
    · exact .sent hsend (dueIn_course hdue) (gather_course hwait)
    · exact .beyond hsend (dueIn_course hfar)
  · exact .unsent hsend

/-- What stands between a transmission that timed out and the next one. -/
def resending (c : Command) : List Exchange :=
  [⟨.note (.retrying c), ()⟩, ⟨.clear, .ok ()⟩]

/-- Settling a command, which takes two transmissions at most. -/
inductive Settled (line : Line) (options : RunOptions) (c : Command) :
    List Exchange → Option (Except LinkError (Nat × Ending × Bytes)) → Prop where
  | once (first : Attempted line options c 1 es (some (.ok (ending, response))))
      (kept : ending = .timedOut → options.onTimeout ≠ .retryOnce) :
      Settled line options c es (some (.ok (1, ending, response)))
  | twice (first : Attempted line options c 1 es (some (.ok (.timedOut, lost))))
      (policy : options.onTimeout = .retryOnce)
      (second : Attempted line options c 2 es' (some (.ok (ending, response)))) :
      Settled line options c (es ++ (resending c ++ es')) (some (.ok (2, ending, response)))
  | cut (first : Attempted line options c 1 es (some (.error cause))) :
      Settled line options c es (some (.error cause))
  | uncleared (first : Attempted line options c 1 es (some (.ok (.timedOut, lost))))
      (policy : options.onTimeout = .retryOnce) (e : PortError) :
      Settled line options c (es ++ [⟨.note (.retrying c), ()⟩, ⟨.clear, .error e⟩])
        (some (.error (.readFailed line.port e)))
  | cutAgain (first : Attempted line options c 1 es (some (.ok (.timedOut, lost))))
      (policy : options.onTimeout = .retryOnce)
      (second : Attempted line options c 2 es' (some (.error cause))) :
      Settled line options c (es ++ (resending c ++ es')) (some (.error cause))
  | halted (first : Attempted line options c 1 es none) : Settled line options c es none
  | haltedAgain (first : Attempted line options c 1 es (some (.ok (.timedOut, lost))))
      (policy : options.onTimeout = .retryOnce)
      (second : Attempted line options c 2 es' none) :
      Settled line options c (es ++ (resending c ++ es')) none

theorem settle_course {line : Line} {options : RunOptions} {patience : Nat} {c : Command}
    {es : List Exchange} {r : Option (Except LinkError (Nat × Ending × Bytes))}
    (h : Transcript (settle line options patience c).run es r) : Settled line options c es r := by
  rcases Transcript.of_step h with
    ⟨⟨ending, response⟩, first, second, rfl, hfirst, hnext⟩ | ⟨cause, hfirst, rfl⟩ | ⟨hfirst, rfl⟩
  · have hfirst := attempt_course hfirst
    by_cases hlate : ending = .timedOut ∧ options.onTimeout = .retryOnce
    · obtain ⟨rfl, policy⟩ := hlate
      simp only [policy, and_self, ↓reduceIte] at hnext
      obtain ⟨⟨⟩, rest, rfl, hclear⟩ := Transcript.of_perform hnext
      rcases Transcript.of_sure_step Line.discard_course hclear with
        ⟨⟨⟩, cleared, rest, rfl, hcleared, hagain⟩ | ⟨cause, hfailed, rfl⟩
      · cases hcleared
        rcases Transcript.of_step hagain with
          ⟨⟨ending, response⟩, es', last, rfl, hsecond, hlast⟩ | ⟨cause, hsecond, rfl⟩ |
            ⟨hsecond, rfl⟩
        · obtain ⟨rfl, rfl⟩ := Transcript.of_pure hlast
          rw [List.append_nil]
          exact .twice hfirst policy (attempt_course hsecond)
        · exact .cutAgain hfirst policy (attempt_course hsecond)
        · exact .haltedAgain hfirst policy (attempt_course hsecond)
      · cases hfailed with
        | failed e => exact .uncleared hfirst policy e
    · simp only [hlate, ↓reduceIte] at hnext
      obtain ⟨rfl, rfl⟩ := Transcript.of_pure hnext
      rw [List.append_nil]
      exact .once hfirst (fun hend policy => hlate ⟨hend, policy⟩)
  · exact .cut (attempt_course hfirst)
  · exact .halted (attempt_course hfirst)

/-- One command from its first write to its record. -/
inductive Executed (line : Line) (options : RunOptions) (c : Command) :
    List Exchange → Option (Except LinkError Record) → Prop where
  | recorded (start finish : Nat)
      (settled : Settled line options c es (some (.ok (attempts, ending, response))))
      (record : r = ⟨c, ending, attempts, elapsed start finish, Text.decode response⟩) :
      Executed line options c
        (⟨.clock, start⟩ :: (es ++ [⟨.clock, finish⟩, ⟨.note (.settled r), ()⟩])) (some (.ok r))
  | cut (start : Nat) (settled : Settled line options c es (some (.error cause))) :
      Executed line options c (⟨.clock, start⟩ :: es) (some (.error cause))
  | halted (start : Nat) (settled : Settled line options c es none) :
      Executed line options c (⟨.clock, start⟩ :: es) none

theorem execute_course {line : Line} {options : RunOptions} {patience : Nat} {c : Command}
    {es : List Exchange} {r : Option (Except LinkError Record)}
    (h : Transcript (execute line options patience c).run es r) : Executed line options c es r := by
  obtain ⟨start, rest, rfl, hrest⟩ := Transcript.of_perform h
  rcases Transcript.of_step hrest with
    ⟨⟨attempts, ending, response⟩, first, second, rfl, hsettle, hend⟩ | ⟨cause, hsettle, rfl⟩ |
      ⟨hsettle, rfl⟩
  · obtain ⟨finish, rest, rfl, hnote⟩ := Transcript.of_perform hend
    obtain ⟨⟨⟩, rest, rfl, hpure⟩ := Transcript.of_perform hnote
    obtain ⟨rfl, rfl⟩ := Transcript.of_pure hpure
    exact .recorded start finish (settle_course hsettle) rfl
  · exact .cut start (settle_course hsettle)
  · exact .halted start (settle_course hsettle)

/-- The pause after a command that succeeded, if there are more to come. -/
def pause (options : RunOptions) (left : List Command) : List Exchange :=
  if left ≠ [] ∧ options.delay ≠ 0 then [⟨.sleep options.delay, ()⟩] else []

/-- The commands left, after those that the records tell of. -/
inductive Advanced (line : Line) (options : RunOptions) (total : Nat) :
    List Record → List Command → List Exchange →
      Option (Except Interruption (Status × List Record)) → Prop where
  | finished : Advanced line options total records [] [] (some (.ok (.completed total, records)))
  | success (now : Executed line options c es (some (.ok record)))
      (good : record.ending = .success)
      (rest : Advanced line options total (records ++ [record]) left es' r) :
      Advanced line options total records (c :: left) (es ++ (pause options left ++ es')) r
  | failure (now : Executed line options c es (some (.ok record)))
      (bad : record.ending = .failure) :
      Advanced line options total records (c :: left) es
        (some (.ok (.failed (records.length + 1) total, records ++ [record])))
  | timedOut (now : Executed line options c es (some (.ok record)))
      (late : record.ending = .timedOut) :
      Advanced line options total records (c :: left) es
        (some (.ok (.timedOut (records.length + 1) total, records ++ [record])))
  | cut (now : Executed line options c es (some (.error cause))) :
      Advanced line options total records (c :: left) es
        (some (.error ⟨records.length + 1, total, records, cause⟩))
  | halted (now : Executed line options c es none) :
      Advanced line options total records (c :: left) es none

theorem advance_course {line : Line} {options : RunOptions} {patience total : Nat}
    {records : List Record} {commands : List Command} {es : List Exchange}
    {r : Option (Except Interruption (Status × List Record))}
    (h : Transcript (advance line options patience total records commands).run es r) :
    Advanced line options total records commands es r := by
  induction commands generalizing records es with
  | nil =>
    obtain ⟨rfl, rfl⟩ := Transcript.of_pure h
    exact .finished
  | cons c left ih =>
    rcases Transcript.of_step h with
      ⟨record, first, second, rfl, hrecord, hnext⟩ | ⟨i, hcut, rfl⟩ | ⟨hnone, rfl⟩
    · have hnow := execute_course (Transcript.of_adapt_ok hrecord)
      cases hend : record.ending with
      | success =>
        simp only [hend] at hnext
        by_cases hpause : left ≠ [] ∧ options.delay ≠ 0
        · rw [if_pos hpause] at hnext
          obtain ⟨⟨⟩, rest, rfl, hrest⟩ := Transcript.of_perform hnext
          have := Advanced.success hnow hend (ih hrest)
          rwa [pause, if_pos hpause] at this
        · rw [if_neg hpause] at hnext
          have := Advanced.success hnow hend (ih hnext)
          rwa [pause, if_neg hpause] at this
      | failure =>
        simp only [hend] at hnext
        obtain ⟨rfl, rfl⟩ := Transcript.of_pure hnext
        rw [List.append_nil]
        exact .failure hnow hend
      | timedOut =>
        simp only [hend] at hnext
        obtain ⟨rfl, rfl⟩ := Transcript.of_pure hnext
        rw [List.append_nil]
        exact .timedOut hnow hend
    · obtain ⟨cause, rfl, hnow⟩ := Transcript.of_adapt_error hcut
      exact .cut (execute_course hnow)
    · exact .halted (execute_course (Transcript.of_adapt_none hnone))

/-- A whole run between its first note and its last, which is written only if there is a report. -/
inductive Ran (line : Line) (options : RunOptions) (commands : List Command) :
    List Exchange → Option (Except Interruption Report) → Prop where
  | reported (course : Advanced line options commands.length [] commands es
        (some (.ok (status, records))))
      (report : r = ⟨status, records.countP (·.ending = .success), records⟩) :
      Ran line options commands
        (⟨.note (.starting commands.length line.port), ()⟩ ::
          (es ++ [⟨.note (.finished r.succeeded commands.length status), ()⟩])) (some (.ok r))
  | cut (course : Advanced line options commands.length [] commands es (some (.error i))) :
      Ran line options commands (⟨.note (.starting commands.length line.port), ()⟩ :: es)
        (some (.error i))
  | halted (course : Advanced line options commands.length [] commands es none) :
      Ran line options commands (⟨.note (.starting commands.length line.port), ()⟩ :: es) none

theorem run_course {line : Line} {options : RunOptions} {patience : Nat} {commands : List Command}
    {es : List Exchange} {r : Option (Except Interruption Report)}
    (h : Transcript (run line options patience commands).run es r) :
    Ran line options commands es r := by
  obtain ⟨⟨⟩, rest, rfl, hrest⟩ := Transcript.of_perform h
  rcases Transcript.of_step hrest with
    ⟨⟨status, records⟩, first, second, rfl, hadvance, hend⟩ | ⟨i, hadvance, rfl⟩ |
      ⟨hadvance, rfl⟩
  · obtain ⟨⟨⟩, rest, rfl, hpure⟩ := Transcript.of_perform hend
    obtain ⟨rfl, rfl⟩ := Transcript.of_pure hpure
    exact .reported (advance_course hadvance) rfl
  · exact .cut (advance_course hadvance)
  · exact .halted (advance_course hadvance)

end Sequence

end ModemBench
