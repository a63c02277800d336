import Mathlib
import ModemBench.Bench.Willing
import ModemBench.Proofs.DistinctLines
import ModemBench.Proofs.ExitCodes
import ModemBench.Proofs.WireContract
/-!
A dry run and a run. What a dry run prints, line by line, is what a run with the same arguments puts
on the wire, line by line, as far as it gets.
-/

namespace ModemBench

section Printed

/-- The lines of a text, each of which has its end. -/
def Text.lines (text : String) : List String :=
  (pieces '\n' text.toList).map fun piece => String.ofList piece.dropLast

theorem Text.lines_join {lines : List String} (plain : ∀ line ∈ lines, '\n' ∉ line.toList) :
    Text.lines (String.join (lines.map (· ++ "\n"))) = lines := by
  have hnewline : "\n".toList = ['\n'] := rfl
  rw [Text.lines, String.toList_join, List.flatMap_map]
  induction lines with
  | nil => rfl
  | cons line lines ih =>
    obtain ⟨hline, hlines⟩ := List.forall_mem_cons.mp plain
    rw [List.flatMap_cons, String.toList_append, hnewline, List.append_assoc, List.singleton_append,
      pieces_append_stop hline, List.map_cons, ih hlines]
    simp

def Exchange.printed? : Exchange → Option String
  | ⟨.print text, _⟩ => some text
  | _ => none

/-- The lines that are printed. -/
def printedLines (es : List Exchange) : List String :=
  Text.lines (String.join (es.filterMap Exchange.printed?))

theorem printedLines_muted (es : List Exchange) : printedLines (muted es) = printedLines es := by
  have hprinted : (muted es).filterMap Exchange.printed? = es.filterMap Exchange.printed? := by
    rw [muted, List.filterMap_filter]
    refine List.filterMap_congr fun e _ => ?_
    rcases e with ⟨q, answer⟩
    cases q <;> rfl
  rw [printedLines, hprinted, printedLines]

end Printed

section Traffic

/-- Whether this has to do with transmissions: a write, or the note that one begins. -/
def Exchange.transmits : Exchange → Bool
  | ⟨.write _, _⟩ | ⟨.note (.sending _ _), _⟩ => true
  | _ => false

def traffic (es : List Exchange) : List Exchange := es.filter Exchange.transmits

theorem traffic_append (es es' : List Exchange) : traffic (es ++ es') = traffic es ++ traffic es' :=
  List.filter_append ..

theorem Exchange.of_not_transmits {e : Exchange} (h : e.transmits = false) :
    e.taken = [] ∧ e.balks = false ∧ e.sending? = none := by
  rcases e with ⟨q, answer⟩
  cases q with
  | write bytes => cases h
  | note entry => cases entry <;> first | exact ⟨rfl, rfl, rfl⟩ | cases h
  | _ => exact ⟨rfl, rfl, rfl⟩

variable {es es' : List Exchange}

theorem taken_traffic (es : List Exchange) :
    (traffic es).flatMap Exchange.taken = es.flatMap Exchange.taken := by
  induction es with
  | nil => rfl
  | cons e es ih =>
    cases h : e.transmits with
    | true => rw [traffic, List.filter_cons_of_pos h, List.flatMap_cons, ← traffic, ih]; rfl
    | false =>
      rw [traffic, List.filter_cons_of_neg (by simp [h]), ← traffic, ih, List.flatMap_cons,
        (Exchange.of_not_transmits h).1, List.nil_append]

theorem balks_traffic (es : List Exchange) :
    (traffic es).any Exchange.balks = es.any Exchange.balks := by
  rw [traffic, List.any_filter]
  congr 1
  funext e
  cases h : e.transmits with
  | true => rfl
  | false => rw [(Exchange.of_not_transmits h).2.1]; rfl

theorem sendings_traffic (es : List Exchange) : sendings (traffic es) = sendings es := by
  rw [sendings, traffic, List.filterMap_filter, sendings]
  refine List.filterMap_congr fun e _ => ?_
  cases h : e.transmits with
  | true => rfl
  | false => exact (Exchange.of_not_transmits h).2.2.symm

/-- The host has no part in transmissions. -/
theorem Exchange.transmits_of_ofHost {e : Exchange} (h : e.ofHost = true) :
    e.transmits = false := by
  rcases e with ⟨q, answer⟩
  cases q with
  | note entry => cases entry <;> first | rfl | cases h
  | _ => first | rfl | cases h

theorem traffic_muted (es : List Exchange) : traffic (muted es) = traffic es := by
  rw [traffic, muted, List.filter_filter]
  refine List.filter_congr fun e _ => ?_
  rcases e with ⟨q, answer⟩
  cases q <;> first | rfl | exact Bool.and_true _

theorem firstCut_of_traffic (h : traffic es = traffic es') : FirstCut es ↔ FirstCut es' :=
  firstCut_congr (by rw [← balks_traffic, h, balks_traffic])
    (by rw [← sendings_traffic, h, sendings_traffic])

end Traffic

namespace CommandLine

theorem foregone_eq_ok {a : Arguments} {around : Surroundings} {s : Settings}
    {commands : List Command} (h : foregone a around = .ok (s, commands)) :
    Ready a around s ∧ resolve (a.family.getD 0) a.case? s.parameters = .ok commands ∧
      a.dryRun = false := by
  unfold foregone at h
  split at h
  · cases h
  · next unlisted =>
    split at h
    · cases h
    · next s' loaded =>
      split at h
      · cases h
      · next logging filtered =>
        have ready : Ready a around s' :=
          ⟨Bool.not_eq_true _ ▸ unlisted, loaded, logging.1, logging.2, filtered⟩
        split at h
        · cases h
        · next commands' resolved =>
          split at h
          · cases h
          · next undried =>
            cases h
            exact ⟨ready, resolved, Bool.not_eq_true _ ▸ undried⟩

/-- What a run has sent when it stops, in lines: none if the host, the link or the clearing of the
line fails, all if the run completes, and else those up to the command that it stops at. That one
counts unless its first transmission was cut off. -/
inductive Stopped (total : Nat) (es : List Exchange) : Option Nat → Nat → Prop where
  | unbegun (unsent : sendings es = []) : Stopped total es (some 3) 0
  | completed (told : ⟨.note (.finished total total (.completed total)), ()⟩ ∈ es) :
      Stopped total es (some 0) total
  | failed (within : n < total)
      (told : ⟨.note (.finished n total (.failed (n + 1) total)), ()⟩ ∈ es) :
      Stopped total es (some 1) (n + 1)
  | timedOut (within : n < total)
      (told : ⟨.note (.finished n total (.timedOut (n + 1) total)), ()⟩ ∈ es) :
      Stopped total es (some 1) (n + 1)
  | cut (within : n < total) (place : i.position = n + 1)
      (told : ⟨.note (.gaveUp (Failure.interrupted i).message), ()⟩ ∈ es) (first : FirstCut es) :
      Stopped total es (some 3) n
  | interrupted (within : n < total) (place : i.position = n + 1)
      (told : ⟨.note (.gaveUp (Failure.interrupted i).message), ()⟩ ∈ es) (whole : ¬ FirstCut es) :
      Stopped total es (some 3) (n + 1)
  | underway (within : n ≤ total) : Stopped total es none n

section

variable {plan : Plan} {s : Settings} {inside served es : List Exchange} {json : Bool}

theorem Hosted.traffic_eq {outcome : Option (Except Failure Summary)}
    (h : Hosted plan s inside served outcome) (hes : muted es = served ++ lastWord json outcome) :
    traffic es = traffic inside := by
  have hlast : traffic (lastWord json outcome) = [] := by
    rcases outcome with _ | _ | _ <;> rfl
  have hserved : traffic served = traffic inside := h.filter fun _ => Exchange.transmits_of_ofHost
  rw [← traffic_muted, hes, traffic_append, hserved, hlast, List.append_nil]

theorem Stopped.of_report {report : Report}
    (shaped : Sequence.Shaped plan.commands report)
    (told : ⟨.note (.finished report.succeeded plan.commands.length report.status), ()⟩ ∈ es) :
    Stopped plan.commands.length es (some report.exitCode) report.records.length := by
  have hwithin := shaped.within
  by_cases hdone : report.status = .completed plan.commands.length
  · have hcode : report.exitCode = 0 := by rw [Report.exitCode, Report.isSuccess, hdone]; rfl
    rw [hdone, shaped.counted hdone] at told
    rw [hcode, (shaped.completed.mp hdone).1]
    exact .completed told
  · obtain ⟨hpos, hcount, last, -, halts⟩ := shaped.halted hdone
    have hcode : report.exitCode = 1 := by
      rw [Report.exitCode, Report.isSuccess, halts.stops.2.2]
      rfl
    obtain ⟨n, hn⟩ := Nat.exists_eq_add_of_le' hpos
    rw [hcount, hn, Nat.add_sub_cancel] at told
    rw [hn] at halts hwithin ⊢
    rw [hcode]
    generalize report.status = status at halts told
    generalize last.ending = ending at halts
    cases halts with
    | failed => exact .failed hwithin told
    | timedOut => exact .timedOut hwithin told

/-- What a plan has sent when it stops. -/
theorem Hosted.stopped {outcome : Option (Except Failure Summary)}
    (h : Hosted plan s inside served outcome) (hes : muted es = served ++ lastWord json outcome)
    (plain : ∀ c ∈ plan.commands, '\n' ∉ c.line.toList) (distinct : plan.commands.Nodup) :
    ∃ n, Stopped plan.commands.length es (outcome.map exitCode) n ∧
      (pieces 0x0A (es.flatMap Exchange.taken)).destutter (· ≠ ·) =
        (plan.commands.take n).map Command.wire := by
  have htraffic := h.traffic_eq hes
  have hmem {e : Exchange} (he : e ∈ served ++ lastWord json outcome) : e ∈ es :=
    List.mem_of_mem_filter (hes ▸ he)
  have behind {run : List Exchange} {line : Line} (hinside : inside = plan.opening s line ++ run) :
      es.flatMap Exchange.taken = run.flatMap Exchange.taken ∧ (FirstCut es ↔ FirstCut run) := by
    have hsame : traffic es = traffic run := by
      rw [htraffic, hinside, traffic_append]
      rfl
    exact ⟨by rw [← taken_traffic, hsame, taken_traffic], firstCut_of_traffic hsame⟩
  cases h.performed with
  | unprepared | unconnected | uncleared =>
    refine ⟨0, .unbegun ?_, ?_⟩
    · rw [← sendings_traffic, htraffic]
      rfl
    · rw [← taken_traffic, htraffic]
      rfl
  | @reported line run report course =>
    obtain ⟨htaken, -⟩ := behind rfl
    obtain ⟨n, hlines, -, hreported, -⟩ := course.extent plain distinct
    obtain ⟨shaped, segments, -, rfl⟩ := course.told
    refine ⟨n, ?_, htaken ▸ hlines⟩
    have := hreported report rfl
    rw [Nat.zero_add] at this
    subst this
    refine .of_report shaped (hmem (List.mem_append_left _ (h.served.mem ?_ rfl)))
    simp
  | @cut line run i course =>
    obtain ⟨htaken, hcut⟩ := behind rfl
    obtain ⟨n, hlines, -, -, hbroken⟩ := course.extent plain distinct
    obtain ⟨m, hm, hplace, hfirst, hwhole⟩ := hbroken i rfl
    rw [Nat.zero_add] at hplace
    have htold : ⟨.note (.gaveUp (Failure.interrupted i).message), ()⟩ ∈ es :=
      hmem (List.mem_append_right _ (List.mem_singleton_self _))
    refine ⟨n, ?_, htaken ▸ hlines⟩
    by_cases first : FirstCut run
    · obtain rfl := hfirst first
      exact .cut hm hplace htold (hcut.mpr first)
    · obtain rfl := hwhole first
      exact .interrupted hm hplace htold (mt hcut.mp first)
  | @halted line run course =>
    obtain ⟨htaken, -⟩ := behind rfl
    obtain ⟨n, hlines, hwithin, -, -⟩ := course.extent plain distinct
    exact ⟨n, .underway hwithin, htaken ▸ hlines⟩

end

/-- With nothing wrong, a plan is shown or run. -/
theorem Held.planned {a : Arguments} {around : Surroundings} {s : Settings}
    {commands : List Command} {es : List Exchange} {r : Option Nat} (h : Held a around es r)
    (ready : Ready a around s)
    (resolved : resolve (a.family.getD 0) a.case? s.parameters = .ok commands) :
    ∃ plan : Plan, plan.commands = commands ∧
      (a.dryRun = true ∧ es = [⟨.print (showPlan plan a.json), ()⟩] ∨
        a.dryRun = false ∧ ∃ inside served outcome, Hosted plan s inside served outcome ∧
          es = served ++ lastWord a.json outcome ∧ r = outcome.map exitCode) := by
  obtain ⟨unlisted, loaded, filter, complaints, filtered⟩ := ready
  cases h with
  | listed asked => cases unlisted.symm.trans asked
  | unset _ failed => cases loaded.symm.trans failed
  | unfiltered _ loaded' broken =>
    cases loaded.symm.trans loaded'
    cases filtered.symm.trans broken
  | unknown ready refused =>
    cases loaded.symm.trans ready.loaded
    cases resolved.symm.trans refused
  | @shown _ plan ready made asked =>
    cases loaded.symm.trans ready.loaded
    cases resolved.symm.trans (make_eq_ok made)
    exact ⟨plan, rfl, .inl ⟨asked, rfl⟩⟩
  | @ran _ plan inside served outcome ready made unasked hosted =>
    cases loaded.symm.trans ready.loaded
    cases resolved.symm.trans (make_eq_ok made)
    exact ⟨plan, rfl, .inr ⟨unasked, inside, served, outcome, hosted, rfl, rfl⟩⟩

/-- The arguments of a dry run that prints lines. -/
def Arguments.rehearsal (a : Arguments) : Arguments := { a with dryRun := true, json := false }

/-- What ends a run before anything is touched ends the dry run as well. -/
theorem foregone_rehearsal {a : Arguments} {around : Surroundings} {code : Nat}
    (h : foregone a around = .error code) : foregone a.rehearsal around = .error code := by
  have hload : loadSettings a.rehearsal around = loadSettings a around := rfl
  have hresolve (s : Settings) :
      resolve (a.rehearsal.family.getD 0) a.rehearsal.case? s.parameters =
        resolve (a.family.getD 0) a.case? s.parameters := rfl
  have hlist : a.rehearsal.list = a.list := rfl
  revert h
  simp only [foregone, hload, hresolve, hlist]
  cases a.list with
  | true => exact id
  | false =>
    simp only [Bool.false_eq_true, ↓reduceIte]
    cases loadSettings a around with
    | error e => exact id
    | ok s =>
      dsimp only
      cases s.logging.filter around with
      | error fault => exact id
      | ok logging =>
        dsimp only
        cases resolve (a.family.getD 0) a.case? s.parameters with
        | error e => exact id
        | ok commands =>
          intro h
          dsimp only at h
          split at h
          · exact h
          · cases h

theorem printedLines_plan (plan : Plan) (plain : ∀ c ∈ plan.commands, '\n' ∉ c.line.toList) :
    printedLines [⟨.print (showPlan plan false), ()⟩] = plan.commands.map Command.line := by
  have hlines : ∀ line ∈ plan.commands.map Command.line, '\n' ∉ line.toList := by
    rw [List.forall_mem_map]
    exact plain
  have hshown : printedLines [⟨.print (showPlan plan false), ()⟩] =
      Text.lines (String.join ((plan.commands.map Command.line).map (· ++ "\n"))) := by
    rw [List.map_map]
    exact congrArg Text.lines String.empty_append
  exact hshown.trans (Text.lines_join hlines)

/-- Whatever the two runs meet with: where one ends before anything is touched, the other does too,
and else the lines that the dry run prints are the commands. The lines that the run with the same
arguments has put on the wire when it stops, each counted once however often it was sent, are the
first of them: as many as its stopping point says. -/
theorem dry_run_rehearses {σ τ : Type} [World σ] [World τ] {words rehearsal : List String}
    {a : Arguments} (accepted : invocation words = .run a)
    (rehearsed : invocation rehearsal = .run a.rehearsal) (around : Surroundings)
    (plain : ∀ s, loadSettings a around = .ok s → s.parameters.Without '\n')
    (patience patience' : Nat) (w : σ) (w' : τ) :
    let ran := (program words around patience).play w
    let dry := (program rehearsal around patience').play w'
    (∀ code, foregone a around = .error code → Quits ran code ∧ Quits dry code) ∧
    ∀ s commands, foregone a around = .ok (s, commands) →
      printedLines dry.exchanges = commands.map Command.line ∧
      ∃ n, Stopped commands.length ran.exchanges ran.result n ∧
        (pieces 0x0A (ran.exchanges.flatMap Exchange.taken)).destutter (· ≠ ·) =
          ((printedLines dry.exchanges).take n).map fun line =>
            Text.encode line ++ [0x0D, 0x0A] := by
  intro ran dry
  have held := program_course accepted ((program words around patience).play_transcript w)
  have heldDry := program_course rehearsed ((program rehearsal around patience').play_transcript w')
  refine ⟨fun code hcode => ?_, fun s commands run => ?_⟩
  · obtain ⟨hresult, haside⟩ := held.foregone.1 code hcode
    obtain ⟨hresult', haside'⟩ := heldDry.foregone.1 code (foregone_rehearsal hcode)
    exact ⟨⟨hresult, haside⟩, ⟨hresult', haside'⟩⟩
  · obtain ⟨ready, resolved, undried⟩ := foregone_eq_ok run
    obtain ⟨distinct, single⟩ := resolve_single resolved
    have hlines := single (plain s ready.loaded)
    have hprinted : printedLines dry.exchanges = commands.map Command.line := by
      obtain ⟨plan, rfl, ⟨-, hes⟩ | ⟨undried, -⟩⟩ := heldDry.planned (s := s)
        ⟨ready.unlisted, ready.loaded, ready.filtered⟩ resolved
      · rw [← printedLines_muted, hes]
        exact printedLines_plan plan hlines
      · cases undried
    obtain ⟨plan, rfl, ⟨dried, -⟩ | ⟨-, inside, served, outcome, hosted, hes, hr⟩⟩ :=
      held.planned ready resolved
    · cases undried.symm.trans dried
    obtain ⟨n, stopped, taken⟩ := hosted.stopped hes hlines distinct
    refine ⟨hprinted, n, hr ▸ stopped, taken.trans ?_⟩
    rw [hprinted, ← List.map_take, List.map_map]
    rfl

/-- A modem that likes everything gets the one line that the dry run prints. -/
theorem willing_dry_run_rehearses :
    let a : Arguments := { family := some 0, case? := some 11 }
    let ran := (program ["0", "11"] bare 1).play Willing.mk
    let dry := (program ["0", "11", "--dry-run"] bare 1).play Willing.mk
    invocation ["0", "11"] = .run a ∧ invocation ["0", "11", "--dry-run"] = .run a.rehearsal ∧
      printedLines dry.exchanges = ["AT+TTIMER"] ∧
      (pieces 0x0A (ran.exchanges.flatMap Exchange.taken)).destutter (· ≠ ·) =
        [Text.encode "AT+TTIMER" ++ [0x0D, 0x0A]] := by
  intro a ran dry
  have rehearsed : invocation ["0", "11", "--dry-run"] = .run a.rehearsal := by cbv
  have plain : ∀ s, loadSettings a bare = .ok s → s.parameters.Without '\n' := by
    intro s hs
    cases bare_ready.loaded.symm.trans hs
    constructor <;> decide
  obtain ⟨-, hrun⟩ :=
    dry_run_rehearses timer_accepted rehearsed bare plain 1 1 Willing.mk Willing.mk
  obtain ⟨printed, n, stopped, taken⟩ := hrun _ _ bare_foregone
  refine ⟨timer_accepted, rehearsed, printed, ?_⟩
  rw [willing_timer] at stopped
  rw [printed] at taken
  cases stopped with
  | completed => exact taken

end CommandLine

end ModemBench
