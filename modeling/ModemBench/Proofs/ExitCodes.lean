import Mathlib
import ModemBench.Bench.Willing
import ModemBench.Bench.World
import ModemBench.Proofs.Interruption
import ModemBench.Proofs.ProgramCourse
import ModemBench.Proofs.ReportShape
/-!
The exit codes of the program. What is wrong with the arguments, the settings or the selection is
found before the host or the port is touched; a plan that is run ends with three if anything on the
way broke it, and else the replies of the modem decide.
-/

namespace ModemBench

namespace Sequence

variable {line : Line} {options : RunOptions} {commands : List Command} {es : List Exchange}

theorem Ran.sound {r : Option (Except Interruption Report)} (h : Ran line options commands es r)
    (hr : ∀ i, r ≠ some (.error i)) : Sound es := by
  cases h with
  | reported course report => simp [course.sound, Exchange.fails]
  | halted course => simp [course.sound, Exchange.fails]
  | cut => exact absurd rfl (hr _)

theorem Ran.fails {i : Interruption} (h : Ran line options commands es (some (.error i))) :
    ∃ e ∈ es, e.fails = true := by
  cases h with
  | cut course =>
    obtain ⟨new, segments, c, left, last, cause, -, -, -, rfl, -, hlast⟩ := course.broken
    obtain ⟨before, e, rfl, -, hfails⟩ := hlast.cutOff.call
    exact ⟨e, by simp, hfails⟩

/-- The exchanges of a run with a report are those that its records tell of. -/
theorem Ran.told {report : Report} (h : Ran line options commands es (some (.ok report))) :
    Shaped commands report ∧
      ∃ segments, List.Forall₂ (Episode options) report.records segments ∧
        es = ⟨.note (.starting commands.length line.port), ()⟩ :: (segments.flatten ++
          [⟨.note (.finished report.succeeded commands.length report.status), ()⟩]) := by
  cases h with
  | @reported es status records _ course hreport =>
    subst hreport
    obtain ⟨new, segments, rfl, rfl, hstages, hstop⟩ := course.stop
    exact ⟨hstop.shaped, segments, hstages.imp fun _ _ => Stage.episode, rfl⟩

end Sequence

/-- A report tells of exchanges: of every transmission among them, and of its reply. -/
structure Accounted (options : RunOptions) (commands : List Command) (es : List Exchange)
    (report : Report) : Prop where
  shaped : Sequence.Shaped commands report
  told : ∃ before segments after, es = before ++ (segments.flatten ++ after) ∧
    sendings before = [] ∧ List.Forall₂ (Sequence.Episode options) report.records segments ∧
    sendings after = []

theorem Sequence.Halts.ending {position total : Nat} {ending : Ending} {status : Status}
    (h : Halts position total ending status) : ending = .failure ∨ ending = .timedOut := by
  cases h with
  | failed => exact .inl rfl
  | timedOut => exact .inr rfl

namespace Accounted

variable {options : RunOptions} {commands : List Command} {es : List Exchange} {report : Report}

theorem exit_ne (report : Report) : report.exitCode ≠ 3 := by
  rw [Report.exitCode]
  split <;> decide

theorem exit_eq_one (h : Accounted options commands es report) :
    report.exitCode = 1 ↔ ∃ r ∈ report.records, r.ending = .failure ∨ r.ending = .timedOut := by
  constructor
  · intro hone
    have hhalted : report.status ≠ .completed commands.length := by
      intro hstatus
      rw [Report.exitCode, Report.isSuccess, hstatus] at hone
      cases hone
    obtain ⟨-, -, last, hlast, halts⟩ := h.shaped.halted hhalted
    exact ⟨last, List.mem_of_getLast? hlast, halts.ending⟩
  · rintro ⟨r, hr, hending⟩
    have hne : report.exitCode ≠ 0 := by
      intro hzero
      rw [(h.shaped.exit.mp hzero).2 r hr] at hending
      rcases hending with hfailure | hlate
      · cases hfailure
      · cases hlate
    rw [Report.exitCode] at hne ⊢
    split at hne
    · exact absurd rfl hne
    · exact if_neg ‹_›

end Accounted

namespace Exchange

variable {e : Exchange}

theorem breaks_of_onLine (h : e.question.onLine = true) : e.breaks = e.fails := by
  rcases e with ⟨q, answer⟩
  cases q <;> first | rfl | cases h

theorem breaks_of_fails (h : e.fails = true) : e.breaks = true := by
  rcases e with ⟨q, answer⟩
  cases q <;> first | exact h | cases h

theorem breaks_of_complains (h : e.complains = true) : e.breaks = false := by
  rcases e with ⟨q, answer⟩
  cases q <;> first | rfl | cases h

end Exchange

theorem mem_muted_breaks {es : List Exchange} :
    (∃ e ∈ muted es, e.breaks = true) ↔ ∃ e ∈ es, e.breaks = true := by
  constructor
  · rintro ⟨e, he, hbreaks⟩
    exact ⟨e, List.mem_of_mem_filter he, hbreaks⟩
  · rintro ⟨e, he, hbreaks⟩
    refine ⟨e, List.mem_filter.mpr ⟨he, ?_⟩, hbreaks⟩
    cases hc : e.complains with
    | false => rfl
    | true => rw [Exchange.breaks_of_complains hc] at hbreaks; cases hbreaks

/-- Whether a question only tells the user something. -/
def Ask.aside : Ask → Bool
  | print _ | complain _ => true
  | _ => false

namespace Plan

variable {plan : Plan} {s : Settings} {es : List Exchange}
  {outcome : Option (Except Failure Summary)}

theorem opening_sound {line : Line} (sound : Sound es)
    (behind : ∀ e ∈ (plan.opening s line ++ es).drop 3, e.question.onLine = true) :
    ¬ ∃ e ∈ plan.opening s line ++ es, e.breaks = true := by
  rintro ⟨e, he, hbreaks⟩
  rcases List.mem_append.mp he with hopening | hrun
  · simp only [opening, List.mem_cons, List.not_mem_nil, or_false] at hopening
    rcases hopening with rfl | rfl | rfl | rfl <;> cases hbreaks
  · have honline : e.question.onLine = true := behind e (List.mem_cons_of_mem _ hrun)
    rw [Exchange.breaks_of_onLine honline, sound e hrun] at hbreaks
    cases hbreaks

/-- A plan breaks off exactly if something breaks it. -/
theorem Performed.broken (h : plan.Performed s es outcome)
    (behind : ∀ e ∈ es.drop 3, e.question.onLine = true) :
    (∃ e ∈ es, e.breaks = true) ↔ ∃ e, outcome = some (.error e) := by
  cases h with
  | unprepared e =>
    exact ⟨fun _ => ⟨_, rfl⟩, fun _ => ⟨⟨.prepare s.serial.port, .error e⟩, by simp, rfl⟩⟩
  | unconnected e =>
    exact ⟨fun _ => ⟨_, rfl⟩,
      fun _ => ⟨⟨.connect s.serial s.logging.verbose, .error e⟩, by simp, rfl⟩⟩
  | uncleared line e => exact ⟨fun _ => ⟨_, rfl⟩, fun _ => ⟨⟨.clear, .error e⟩, by simp, rfl⟩⟩
  | reported course =>
    exact ⟨fun h => absurd h (opening_sound (course.sound (by simp)) behind), nofun⟩
  | halted course =>
    exact ⟨fun h => absurd h (opening_sound (course.sound (by simp)) behind), nofun⟩
  | cut course =>
    obtain ⟨e, he, hfails⟩ := course.fails
    exact ⟨fun _ => ⟨_, rfl⟩,
      fun _ => ⟨e, List.mem_append_right _ he, Exchange.breaks_of_fails hfails⟩⟩

theorem Performed.exitCode {e : Failure} (h : plan.Performed s es (some (.error e))) :
    e.exitCode = 3 := by
  cases h <;> rfl

end Plan

namespace CommandLine

section Hosted

variable {plan : Plan} {s : Settings} {inside es : List Exchange}

theorem Hosted.broken {outcome : Option (Except Failure Summary)}
    (h : Hosted plan s inside es outcome) :
    (∃ e ∈ es, e.breaks = true) ↔ ∃ e, outcome = some (.error e) := by
  rw [← h.performed.broken h.behind, ← List.any_eq_true, ← List.any_eq_true, h.breaks]

/-- Nothing is sent before a run, and the run itself is as the plan has it. -/
theorem Hosted.accounted {summary : Summary} (h : Hosted plan s inside es (some (.ok summary))) :
    Accounted s.pacing.options plan.commands es summary.report := by
  obtain ⟨performed, behind, served⟩ := h
  cases performed with
  | @reported line run report course =>
    obtain ⟨hshaped, segments, hepisodes, hrun⟩ := course.told
    obtain ⟨before, after, rfl, hopening, hafter⟩ := served.of_append
    obtain rfl := hafter.same fun e he => services_onLine (behind e (List.mem_cons_of_mem _ he))
    have hbefore : sendings before = sendings (plan.opening s line) :=
      hopening.image (· ++ ·) (fun _ _ => sendings_append ..) fun _ _ _ ht =>
        (services_served ht).sendings
    subst hrun
    have hsplit : before ++ ⟨.note (.starting plan.commands.length line.port), ()⟩ ::
        (segments.flatten ++
          [⟨.note (.finished report.succeeded plan.commands.length report.status), ()⟩]) =
        (before ++ [⟨.note (.starting plan.commands.length line.port), ()⟩]) ++
          (segments.flatten ++
            [⟨.note (.finished report.succeeded plan.commands.length report.status), ()⟩]) := by
      simp
    refine ⟨hshaped, _, segments, _, hsplit, ?_, hepisodes, rfl⟩
    rw [sendings_append, hbefore]
    rfl

end Hosted

/-- Where the exit code is decided before anything is touched, in the order in which things are
looked at, and else the settings and the commands that are run. -/
def foregone (a : Arguments) (around : Surroundings) : Except Nat (Settings × List Command) :=
  if a.list then .error 0
  else match loadSettings a around with
    | .error _ => .error 3
    | .ok s =>
      match s.logging.filter around with
      | .error _ => .error brokenFilter
      | .ok _ =>
        match resolve (a.family.getD 0) a.case? s.parameters with
        | .error _ => .error 2
        | .ok commands => if a.dryRun then .error 0 else .ok (s, commands)

/-- The exit code of commands that were run: three exactly if something broke the run, and else as
the replies have it that the report tells of. -/
structure Graded (options : RunOptions) (commands : List Command) (es : List Exchange)
    (code : Nat) : Prop where
  broken : code = 3 ↔ ∃ e ∈ es, e.breaks = true
  accounted : code ≠ 3 → ∃ report, Accounted options commands (muted es) report ∧
    (code = 0 ↔
      report.records.map Record.command = commands ∧ ∀ r ∈ report.records, r.ending = .success) ∧
    (code = 1 ↔ ∃ r ∈ report.records, r.ending = .failure ∨ r.ending = .timedOut)

/-- The program ended with this code, and has only told the user something. -/
structure Quits {σ : Type} (played : Played Nat σ) (code : Nat) : Prop where
  result : played.result = some code
  aside : ∀ e ∈ played.exchanges, e.question.aside = true

theorem aside_of_muted {es : List Exchange} (h : ∀ e ∈ muted es, e.question.aside = true) :
    ∀ e ∈ es, e.question.aside = true := by
  intro e he
  cases hc : e.complains with
  | true =>
    rcases e with ⟨q, answer⟩
    cases q <;> first | rfl | cases hc
  | false => exact h e (List.mem_filter.mpr ⟨he, by rw [hc]; rfl⟩)

theorem Ready.foregone {a : Arguments} {around : Surroundings} {s : Settings}
    (h : Ready a around s) :
    foregone a around = match resolve (a.family.getD 0) a.case? s.parameters with
      | .error _ => .error 2
      | .ok commands => if a.dryRun then .error 0 else .ok (s, commands) := by
  obtain ⟨unlisted, loaded, filter, complaints, filtered⟩ := h
  rw [CommandLine.foregone, unlisted, if_neg Bool.false_ne_true, loaded]
  dsimp only
  rw [filtered]

/-- A plan that was run and ended has its exit code from what broke it, or from its report. -/
theorem Hosted.graded {plan : Plan} {s : Settings} {inside served es : List Exchange}
    {outcome : Except Failure Summary} {json : Bool}
    (h : Hosted plan s inside served (some outcome))
    (hes : muted es = served ++ lastWord json (some outcome)) :
    Graded s.pacing.options plan.commands es (exitCode outcome) := by
  have hbroken : (∃ e ∈ es, e.breaks = true) ↔ ∃ e, outcome = .error e := by
    rw [← mem_muted_breaks, hes]
    have hlast : ¬ ∃ e ∈ lastWord json (some outcome), e.breaks = true := by
      cases outcome <;> simp [lastWord, Exchange.breaks, Exchange.fails]
    simp only [List.mem_append, or_and_right, exists_or, hlast, or_false]
    simpa using h.broken
  cases outcome with
  | error e =>
    have hcode : exitCode (.error e) = 3 := h.performed.exitCode
    exact ⟨iff_of_true hcode (hbroken.mpr ⟨e, rfl⟩), fun hne => absurd hcode hne⟩
  | ok summary =>
    have hne : exitCode (.ok summary) ≠ 3 := Accounted.exit_ne summary.report
    have accounted : Accounted s.pacing.options plan.commands (muted es) summary.report := by
      obtain ⟨hshaped, before, segments, after, rfl, hbefore, hepisodes, hafter⟩ := h.accounted
      refine ⟨hshaped, before, segments, after ++ lastWord json (some (.ok summary)), ?_, hbefore,
        hepisodes, ?_⟩
      · rw [hes, List.append_assoc, List.append_assoc]
      · rw [sendings_append, hafter]
        rfl
    refine ⟨iff_of_false hne fun hb => ?_, fun _ => ⟨summary.report, accounted, ?_, ?_⟩⟩
    · obtain ⟨e, he⟩ := hbroken.mp hb
      cases he
    · exact accounted.shaped.exit
    · exact accounted.exit_eq_one

theorem Held.foregone {a : Arguments} {around : Surroundings} {es : List Exchange}
    {r : Option Nat} (h : Held a around (muted es) r) :
    (∀ code, foregone a around = .error code →
      r = some code ∧ ∀ e ∈ es, e.question.aside = true) ∧
    ∀ s commands, foregone a around = .ok (s, commands) → ∀ code, r = some code →
      Graded s.pacing.options commands es code := by
  have quits {n : Nat} (hf : CommandLine.foregone a around = .error n) (hr : r = some n)
      (haside : ∀ e ∈ muted es, e.question.aside = true) :
      (∀ code, CommandLine.foregone a around = .error code →
        r = some code ∧ ∀ e ∈ es, e.question.aside = true) ∧
      ∀ s commands, CommandLine.foregone a around = .ok (s, commands) → ∀ code, r = some code →
        Graded s.pacing.options commands es code := by
    refine ⟨fun code hcode => ?_, fun s commands hok => ?_⟩
    · cases hf.symm.trans hcode
      exact ⟨hr, aside_of_muted haside⟩
    · cases hf.symm.trans hok
  generalize hes : muted es = told at h quits
  cases h with
  | listed asked =>
    exact quits (by rw [CommandLine.foregone, if_pos asked]) rfl (by simp [Ask.aside])
  | unset unlisted failed =>
    exact quits (by simp [CommandLine.foregone, unlisted, failed]) rfl (by simp)
  | unfiltered unlisted loaded broken =>
    exact quits (by simp [CommandLine.foregone, unlisted, loaded, broken]) rfl (by simp)
  | unknown ready refused => exact quits (by rw [ready.foregone, refused]) rfl (by simp)
  | shown ready made asked =>
    exact quits (by rw [ready.foregone, make_eq_ok made, asked]; rfl) rfl (by simp [Ask.aside])
  | @ran s plan inside served outcome ready made unasked hosted =>
    have hf : CommandLine.foregone a around = .ok (s, plan.commands) := by
      rw [ready.foregone, make_eq_ok made, unasked]
      rfl
    refine ⟨fun code hcode => ?_, fun s' commands hok code hcode => ?_⟩
    · cases hf.symm.trans hcode
    · cases hf.symm.trans hok
      obtain ⟨outcome, rfl, rfl⟩ := Option.map_eq_some_iff.mp hcode
      exact hosted.graded hes

/-- What is wrong before a plan is run decides the exit code without touching the host or the port,
and so do a list and a dry run. A plan that is run and ends has its code from what broke it, and
else from the replies. -/
theorem program_exits {σ : Type} [World σ] {words : List String} {a : Arguments}
    (accepted : invocation words = .run a) (around : Surroundings) (patience : Nat) (w : σ) :
    (∀ code, foregone a around = .error code →
      Quits ((program words around patience).play w) code) ∧
    ∀ s commands, foregone a around = .ok (s, commands) →
      ∀ code, ((program words around patience).play w).result = some code →
        Graded s.pacing.options commands
          ((program words around patience).play w).exchanges code := by
  have held := program_course accepted ((program words around patience).play_transcript w)
  obtain ⟨hquits, hgraded⟩ := held.foregone
  refine ⟨fun code hcode => ?_, hgraded⟩
  obtain ⟨hresult, haside⟩ := hquits code hcode
  exact ⟨hresult, haside⟩

/-- Variables of the environment, and no file anywhere. -/
def noFiles (env : List (String × String)) : Surroundings :=
  .ofTexts (fun name => env.lookup name) fun _ => .absent .missing

/-- No file, no log, and no time to wait for a reply. -/
def bare : Surroundings :=
  noFiles [("RUST_LOG", ""), ("AT_TEST_SEQUENCER_RESPONSE_TIMEOUT_MS", "0")]

section Bare

/-- The timer test, which has no parameters. -/
theorem timer_accepted :
    invocation ["0", "11"] = .run { family := some 0, case? := some 11 } := by cbv

theorem bare_ready :
    Ready { family := some 0, case? := some 11 } bare { pacing.responseTimeout := 0 } where
  unlisted := rfl
  loaded := by rfl
  filtered := ⟨⟨[]⟩, [], by cbv⟩

theorem bare_foregone : foregone { family := some 0, case? := some 11 } bare =
    .ok ({ pacing.responseTimeout := 0 }, [⟨"AT+TTIMER"⟩]) := by
  have chosen : resolve 0 (some 11) {} = .ok [⟨"AT+TTIMER"⟩] := by rfl
  rw [bare_ready.foregone]
  simp only [Option.getD_some, chosen, Bool.false_eq_true, ↓reduceIte]

theorem willing_timer : ((program ["0", "11"] bare 1).play Willing.mk).result = some 0 := by
  obtain ⟨unlisted, loaded, -⟩ := bare_ready
  have filtered : ({ pacing.responseTimeout := 0 } : Settings).logging.filter bare =
      .ok (⟨[]⟩, []) := by cbv
  rw [program_eq timer_accepted unlisted loaded filtered]
  cbv

end Bare

/-- A command is sent to a modem that likes everything. -/
theorem willing_program_exits :
    let s : Settings := { pacing.responseTimeout := 0 }
    let played := (program ["0", "11"] bare 1).play Willing.mk
    invocation ["0", "11"] = .run { family := some 0, case? := some 11 } ∧
      played.result = some 0 ∧ Graded s.pacing.options [⟨"AT+TTIMER"⟩] played.exchanges 0 :=
  ⟨timer_accepted, willing_timer,
    (program_exits timer_accepted bare 1 _).2 _ _ bare_foregone 0 willing_timer⟩

/-- Blanks of several bytes before a directive of the log filter stop the program, although there is
nothing wrong with the arguments, the settings or the selection, and nothing was to be sent. -/
theorem cut_filter_exits :
    let around := noFiles [("RUST_LOG", "\u2003x[y]")]
    let a : Arguments := { family := some 0, case? := some 5, dryRun := true }
    invocation ["0", "5", "--dry-run"] = .run a ∧ a.list = false ∧ a.dryRun = true ∧
      loadSettings a around = .ok {} ∧ resolve 0 (some 5) {} = .ok [⟨"AT+TI2C=10,500"⟩] ∧
      ((program ["0", "5", "--dry-run"] around 1).play Willing.mk).result = some 101 := by
  have accepted : invocation ["0", "5", "--dry-run"] =
      .run { family := some 0, case? := some 5, dryRun := true } := by cbv
  have loaded : loadSettings { family := some 0, case? := some 5, dryRun := true }
      (noFiles [("RUST_LOG", "\u2003x[y]")]) = .ok {} := by rfl
  have chosen : resolve 0 (some 5) {} = .ok [⟨"AT+TI2C=10,500"⟩] := by rfl
  have hone : LogFilter.directives "\u2003x[y]" = ["\u2003x[y]".toList] := by
    have hsplit : "\u2003x[y]".splitOn "," = ["\u2003x[y]"] := by
      have hsome : ("," == "") = false := by decide
      rw [String.splitOn, hsome, if_neg Bool.false_ne_true]
      iterate 5 rw [String.splitOnAux, if_neg (by decide), if_neg (by decide)]
      rw [String.splitOnAux, if_pos (by decide)]
      decide
    rw [LogFilter.directives, hsplit]
    decide
  have hcut : LogFilter.Directive.read "\u2003x[y]".toList = .error .cutCharacter := by
    decide +kernel
  intro around a
  have broken : ({} : Settings).logging.filter around = .error .cutCharacter := by
    have hasked : around.env "RUST_LOG" = some "\u2003x[y]" := rfl
    rw [Logging.filter, hasked]
    dsimp only
    rw [hone, LogFilter.strict?, hcut]
    rfl
  have hforegone : foregone a around = .error 101 := by
    rw [foregone, if_neg (by decide), loaded]
    dsimp only
    rw [broken]
    rfl
  have held := program_course accepted
    ((program ["0", "5", "--dry-run"] around 1).play_transcript Willing.mk)
  exact ⟨accepted, rfl, rfl, loaded, chosen, (held.foregone.1 101 hforegone).1⟩

end CommandLine

end ModemBench
