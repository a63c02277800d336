import Mathlib
import ModemBench.Bench.World
import ModemBench.Proofs.Progress
import ModemBench.Proofs.Reaching
/-!
Runs compose. Running one list of commands behind another is running the first and, if it
completed, the second from where the first has left the port and the clock.
-/

namespace ModemBench

/-- Notes leave the world as it is. -/
def Tacit (σ : Type) [World σ] : Prop :=
  ∀ (entry : Note) (w : σ), (World.answer (.note entry) w).2 = w

theorem Bench.tacit : Tacit Bench := fun _ _ => rfl

def Played.map {α β σ : Type} (f : α → β) (p : Played α σ) : Played β σ :=
  ⟨p.result.map f, p.exchanges, p.world⟩

namespace Dialogue

variable {α β σ : Type} [World σ]

theorem play_pure (a : α) (w : σ) : (pure a : Dialogue α).play w = ⟨some a, [], w⟩ := rfl

theorem play_map (f : α → β) (d : Dialogue α) (w : σ) : (f <$> d).play w = (d.play w).map f := by
  induction d generalizing w with
  | done | halted => rfl
  | ask q next ih =>
    change (Dialogue.ask q fun answer => f <$> next answer).play w = _
    simp only [play, ih]
    rfl

theorem play_note (tacit : Tacit σ) (entry : Note) (next : Unit → Dialogue α) (w : σ) :
    (Dialogue.ask (.note entry) next).play w =
      ⟨((next ()).play w).result, ⟨.note entry, ()⟩ :: ((next ()).play w).exchanges,
        ((next ()).play w).world⟩ := by
  simp only [play, tacit entry w]

end Dialogue

theorem Talk.run_adapt {ε ε' α : Type} (x : Talk ε α) (g : ε → ε') :
    (x.adapt g).run = Except.mapError g <$> x.run := rfl

/-- Whether this is the first or the last note of a run, which tell how long it is. -/
def Exchange.frames : Exchange → Bool
  | ⟨.note (.starting _ _), _⟩ | ⟨.note (.finished _ _ _), _⟩ => true
  | _ => false

/-- What happens between the first note of a run and the last. -/
def between (es : List Exchange) : List Exchange := es.filter (!·.frames)

theorem between_append (es es' : List Exchange) :
    between (es ++ es') = between es ++ between es' := List.filter_append _ _

def Played.trim {α σ : Type} (p : Played α σ) : Played α σ :=
  { p with exchanges := between p.exchanges }

/-- The status at the same end of a run of `total` commands, if `before` others came first. -/
def Status.shift (before total : Nat) : Status → Status
  | completed _ => .completed total
  | failed position _ => .failed (before + position) total
  | timedOut position _ => .timedOut (before + position) total

/-- Two reports as one of `total` commands, `before` of them in the first run. -/
def Report.join (before total : Nat) (first second : Report) : Report where
  status := second.status.shift before total
  succeeded := first.succeeded + second.succeeded
  records := first.records ++ second.records

/-- A run that breaks off behind another, as one of `total` commands, `before` of them in the
first. -/
def Interruption.join (before total : Nat) (first : Report) (i : Interruption) : Interruption where
  position := before + i.position
  total := total
  records := first.records ++ i.records
  cause := i.cause

/-- What a run that completed and the one behind it end with. -/
def Report.followedBy (before total : Nat) (first : Report) :
    Except Interruption Report → Except Interruption Report
  | .ok second => .ok (first.join before total second)
  | .error i => .error (i.join before total first)

/-- The same end of a run, had it been one of `total` commands. -/
def outOf (total : Nat) : Except Interruption Report → Except Interruption Report
  | .ok report => .ok { report with status := report.status.shift 0 total }
  | .error i => .error { i with total }

namespace Sequence

/-- The end of the commands left, had it come behind `before` in a run of `total` commands. -/
def rebase (before : List Record) (total : Nat) :
    Except Interruption (Status × List Record) → Except Interruption (Status × List Record)
  | .ok (status, records) => .ok (status.shift before.length total, before ++ records)
  | .error i => .error ⟨before.length + i.position, total, before ++ i.records, i.cause⟩

/-- The report that a status and records make. -/
def reportOf : Status × List Record → Report
  | (status, records) => ⟨status, records.countP (·.ending = .success), records⟩

theorem map_rebase (total : Nat) (status : Status) (records : List Record) :
    Except.map reportOf ∘ rebase records total =
      (reportOf (status, records)).followedBy records.length total ∘ Except.map reportOf := by
  funext ended
  rcases ended with i | ⟨status, more⟩
  · rfl
  · simp [rebase, Except.map, Report.followedBy, Report.join, reportOf]

theorem map_rebase_nil (total : Nat) :
    Except.map reportOf ∘ rebase [] total = outOf total ∘ Except.map reportOf := by
  funext ended
  rcases ended with i | ⟨status, records⟩
  · simp [rebase, Except.map, outOf]
  · rfl

/-- A sleep, if there is reason for one, and then the rest. -/
def paused {α : Type} (p : Prop) [Decidable p] (duration : Nat) (x : Talk Interruption α) :
    Talk Interruption α :=
  if p then do
    Dialogue.perform (.sleep duration)
    x
  else x

theorem run_paused {α : Type} (p : Prop) [Decidable p] (duration : Nat)
    (x : Talk Interruption α) : (paused p duration x).run =
      (if p then Dialogue.perform (.sleep duration) else pure ()) >>= fun _ => x.run := by
  unfold paused
  split <;> rfl

section

variable (line : Line) (options : RunOptions) (patience : Nat)

/-- What follows once a command has its record. -/
def proceed (total : Nat) (records : List Record) (record : Record) (rest : List Command) :
    Talk Interruption (Status × List Record) :=
  match record.ending with
  | .success => paused (rest ≠ [] ∧ options.delay ≠ 0) options.delay
      (advance line options patience total (records ++ [record]) rest)
  | .failure => pure (.failed (records.length + 1) total, records ++ [record])
  | .timedOut => pure (.timedOut (records.length + 1) total, records ++ [record])

theorem advance_cons (total : Nat) (records : List Record) (c : Command) (rest : List Command) :
    advance line options patience total records (c :: rest) =
      (execute line options patience c).adapt
        (fun cause => ⟨records.length + 1, total, records, cause⟩) >>= fun record =>
      proceed line options patience total records record rest := rfl

/-- What came before makes no difference to the commands left but for positions and records. -/
theorem advance_rebase (total total' : Nat) (before records : List Record)
    (commands : List Command) :
    (advance line options patience total (before ++ records) commands).run =
      rebase before total <$> (advance line options patience total' records commands).run := by
  induction commands generalizing records with
  | nil => rfl
  | cons c rest ih =>
    simp only [advance_cons, ExceptT.run_bind, Talk.run_adapt, map_bind, bind_map_left]
    refine bind_congr fun r => ?_
    cases r with
    | error cause =>
      simp only [Except.mapError, map_pure, rebase, List.length_append, Nat.add_assoc]
    | ok record =>
      simp only [Except.mapError, proceed]
      cases record.ending with
      | success => simp only [run_paused, List.append_assoc, ih, map_bind]
      | failure | timedOut => simp [rebase, Status.shift, Nat.add_assoc]

/-- What remains of both lists once the first is done with. -/
def resume (total : Nat) (xs ys : List Command) :
    Status × List Record → Talk Interruption (Status × List Record)
  | (.completed _, records) => paused (xs ≠ [] ∧ ys ≠ [] ∧ options.delay ≠ 0) options.delay
      (advance line options patience total records ys)
  | stopped => pure stopped

/-- The induction is on the first list. The pause behind its last command is the only one that
depends on whether anything follows. -/
theorem advance_append (total : Nat) (records : List Record) (xs ys : List Command) :
    advance line options patience total records (xs ++ ys) =
      advance line options patience total records xs >>=
        resume line options patience total xs ys := by
  induction xs generalizing records with
  | nil => simp [advance, resume, paused]
  | cons c rest ih =>
    simp only [List.cons_append, advance_cons, bind_assoc]
    refine bind_congr fun record => ?_
    unfold proceed
    cases record.ending with
    | success =>
      by_cases hrest : rest = []
      · subst hrest
        simp [advance, resume, paused]
      · have hsame : resume line options patience total (c :: rest) ys =
            resume line options patience total rest ys := by
          funext stopped
          unfold resume
          simp [hrest]
        simp only [hsame, ih, paused]
        by_cases hdelay : options.delay = 0 <;> simp [hrest, hdelay]
    | failure | timedOut => rfl

end

/-- Once its commands are done with, a run only makes its report. -/
def conclude (total : Nat) (course : Status × List Record) : Talk Interruption Report := do
  Dialogue.perform (.note (.finished (reportOf course).succeeded total course.1))
  pure (reportOf course)

/-- The sleep between two runs, if both have commands and there is to be one. -/
def interlude (options : RunOptions) (xs ys : List Command) : Dialogue Unit :=
  if xs ≠ [] ∧ ys ≠ [] ∧ options.delay ≠ 0 then .perform (.sleep options.delay) else pure ()

section

variable {σ : Type} [World σ]

theorem result_interlude (options : RunOptions) (xs ys : List Command) (w : σ) :
    ((interlude options xs ys).play w).result = some () := by
  unfold interlude
  split <;> rfl

theorem between_interlude (options : RunOptions) (xs ys : List Command) (w : σ) :
    between ((interlude options xs ys).play w).exchanges =
      ((interlude options xs ys).play w).exchanges := by
  unfold interlude
  split <;> rfl

theorem play_conclude (tacit : Tacit σ) (total : Nat) (course : Status × List Record) (w : σ) :
    (conclude total course).run.play w =
      ⟨some (.ok (reportOf course)),
        [⟨.note (.finished (reportOf course).succeeded total course.1), ()⟩], w⟩ :=
  Dialogue.play_note tacit (.finished (reportOf course).succeeded total course.1)
    (fun _ => .done (Except.ok (reportOf course) : Except Interruption Report)) w

variable (line : Line) (options : RunOptions) (patience : Nat)

theorem run_eq (commands : List Command) :
    (run line options patience commands).run =
      .ask (.note (.starting commands.length line.port)) fun _ =>
        (advance line options patience commands.length [] commands >>=
          conclude commands.length).run := rfl

/-- Between its first note and its last, a run is the course of its commands. -/
theorem trim_play_run (tacit : Tacit σ) (commands : List Command) (w : σ) :
    ((run line options patience commands).run.play w).trim =
      (((advance line options patience commands.length [] commands).run.play w).trim).map
        (Except.map reportOf) := by
  rw [run_eq, Dialogue.play_note tacit, Talk.play_bind]
  generalize (advance line options patience commands.length [] commands).run.play w = course
  obtain ⟨result, es, w'⟩ := course
  match result with
  | none => simp [Played.trim, Played.map, Played.andThen, between, Exchange.frames]
  | some (.error i) =>
    simp [Played.trim, Played.map, Played.andThen, between, Exchange.frames, Dialogue.play,
      Except.map]
  | some (.ok stopped) =>
    simp [Played.trim, Played.map, Played.andThen, between, Exchange.frames, play_conclude tacit,
      Except.map]

/-- All commands have got a record when their course completes. -/
theorem advance_completed {xs : List Command} {w : σ} {total n : Nat} {records : List Record}
    (h : ((advance line options patience total [] xs).run.play w).result =
      some (.ok (.completed n, records))) : records.length = xs.length ∧ n = total := by
  have hcourse := advance_course (Dialogue.play_transcript
    (advance line options patience total [] xs).run w)
  rw [h] at hcourse
  obtain ⟨new, segments, hnew, -, -, hstop⟩ := hcourse.stop
  obtain rfl : records = new := hnew
  cases hstop with
  | completed good all => exact ⟨by rw [← all, List.length_map], rfl⟩
  | halted good halt told => exact absurd rfl (halt.stops.2.1 n)

/-- The course of both lists, as that of the first makes it. -/
def joined (total : Nat) (xs ys : List Command)
    (course : Played (Except Interruption (Status × List Record)) σ) :
    Played (Except Interruption (Status × List Record)) σ :=
  match course.result with
  | some (.ok (.completed _, records)) =>
    let pause := (interlude options xs ys).play course.world
    let rest := (advance line options patience ys.length [] ys).run.play pause.world
    ⟨rest.result.map (rebase records total),
      course.exchanges ++ (pause.exchanges ++ rest.exchanges), rest.world⟩
  | _ => course.map (rebase [] total)

theorem joined_completed {total n : Nat} {xs ys : List Command} {records : List Record}
    {course : Played (Except Interruption (Status × List Record)) σ}
    (h : course.result = some (.ok (.completed n, records))) :
    joined line options patience total xs ys course =
      let pause := (interlude options xs ys).play course.world
      let rest := (advance line options patience ys.length [] ys).run.play pause.world
      ⟨rest.result.map (rebase records total),
        course.exchanges ++ (pause.exchanges ++ rest.exchanges), rest.world⟩ := by
  unfold joined
  rw [h]

theorem joined_stopped {total : Nat} {xs ys : List Command}
    {course : Played (Except Interruption (Status × List Record)) σ}
    (h : ∀ n records, course.result ≠ some (.ok (.completed n, records))) :
    joined line options patience total xs ys course = course.map (rebase [] total) := by
  unfold joined
  split
  · next n records hresult => exact absurd hresult (h n records)
  · rfl

theorem play_resume (total : Nat) (xs ys : List Command) (n : Nat) (records : List Record)
    (w : σ) : (resume line options patience total xs ys (.completed n, records)).run.play w =
      let pause := (interlude options xs ys).play w
      let rest := (advance line options patience ys.length [] ys).run.play pause.world
      ⟨rest.result.map (rebase records total), pause.exchanges ++ rest.exchanges,
        rest.world⟩ := by
  have hrebase := advance_rebase line options patience total ys.length records [] ys
  rw [List.append_nil] at hrebase
  simp only [resume, run_paused, hrebase]
  change (Dialogue.bind _ (interlude options xs ys)).play w = _
  rw [Dialogue.play_bind, Played.andThen, result_interlude]
  simp only [Dialogue.play_map, Played.map]

theorem play_append (xs ys : List Command) (w : σ) :
    (advance line options patience (xs ++ ys).length [] (xs ++ ys)).run.play w =
      joined line options patience (xs ++ ys).length xs ys
        ((advance line options patience xs.length [] xs).run.play w) := by
  have hrebase := advance_rebase line options patience (xs ++ ys).length xs.length [] [] xs
  rw [List.nil_append] at hrebase
  rw [advance_append, Talk.play_bind, hrebase, Dialogue.play_map]
  generalize (advance line options patience xs.length [] xs).run.play w = course
  obtain ⟨result, es, w'⟩ := course
  match result with
  | none => rfl
  | some (.error i) => simp [joined, Played.andThen, Played.map, rebase, Dialogue.play]
  | some (.ok (.completed n, records)) =>
    simp [joined, Played.andThen, Played.map, rebase, Status.shift, play_resume]
  | some (.ok (.failed position n, records)) =>
    simp [joined, Played.andThen, Played.map, rebase, Status.shift, resume, Dialogue.play_pure]
  | some (.ok (.timedOut position n, records)) =>
    simp [joined, Played.andThen, Played.map, rebase, Status.shift, resume, Dialogue.play_pure]

/-- Whatever the port and the clock do: behind a run that completes, the commands that follow do
what a run of their own does from there, after one pause. A run that does not complete is the
whole run, but for the total. -/
theorem run_append (tacit : Tacit σ) (xs ys : List Command) (w : σ) :
    let total := (xs ++ ys).length
    let first := (run line options patience xs).run.play w
    let whole := (run line options patience (xs ++ ys)).run.play w
    (∀ report, first.result = some (.ok report) → report.status = .completed xs.length →
      let pause := (interlude options xs ys).play first.world
      let second := (run line options patience ys).run.play pause.world
      whole.trim = ⟨second.result.map (report.followedBy xs.length total),
        first.trim.exchanges ++ (pause.exchanges ++ second.trim.exchanges), second.world⟩) ∧
    ((∀ report, first.result = some (.ok report) → report.status ≠ .completed xs.length) →
      whole.trim = first.trim.map (outOf total)) := by
  intro total first whole
  have hfirst : first.trim = _ := trim_play_run line options patience tacit xs w
  have hwhole : whole.trim = _ := trim_play_run line options patience tacit (xs ++ ys) w
  rw [play_append] at hwhole
  have hcompleted := @advance_completed σ _ line options patience xs w xs.length
  generalize (advance line options patience xs.length [] xs).run.play w = course
    at hfirst hwhole hcompleted
  have hresult : first.result = course.result.map (Except.map reportOf) :=
    congrArg Played.result hfirst
  have hworld : first.world = course.world := congrArg Played.world hfirst
  constructor
  · intro report hreport hstatus pause second
    have hsecond : second.trim = _ := trim_play_run line options patience tacit ys pause.world
    have hsecondResult := congrArg Played.result hsecond
    have hsecondWorld := congrArg Played.world hsecond
    have hsecondEs := congrArg Played.exchanges hsecond
    have hfirstEs := congrArg Played.exchanges hfirst
    simp only [Played.trim, Played.map] at hsecondResult hsecondWorld hsecondEs hfirstEs
    rw [hresult, Option.map_eq_some_iff] at hreport
    obtain ⟨i | ⟨status, records⟩, hcourse, hended⟩ := hreport
    · cases hended
    · cases hended
      obtain rfl : status = .completed xs.length := hstatus
      obtain ⟨hlength, -⟩ := hcompleted hcourse
      have hmap := map_rebase total (.completed xs.length) records
      rw [hlength] at hmap
      rw [hwhole, joined_completed line options patience hcourse, ← hworld]
      simp only [Played.trim, Played.map, between_append, between_interlude, Option.map_map,
        hfirstEs, hsecondResult, hsecondEs, hsecondWorld, ← hmap]
      rfl
  · intro hnot
    have hstopped : ∀ n records, course.result ≠ some (.ok (.completed n, records)) := by
      intro n records hcourse
      obtain ⟨-, rfl⟩ := hcompleted hcourse
      exact hnot (reportOf (.completed xs.length, records)) (by rw [hresult, hcourse]; rfl) rfl
    rw [hwhole, joined_stopped line options patience hstopped, hfirst]
    simp only [Played.trim, Played.map, Option.map_map, map_rebase_nil]
    rfl

/-- The first command succeeds and the one behind it is refused, after a pause. -/
theorem refused_run_append :
    let bench : Bench :=
      { rig.modem.script := [⟨Verdict.successToken, 0⟩, ⟨Verdict.failureToken, 0⟩] }
    let options : RunOptions := ⟨none, 5, .abort⟩
    let first := (run ⟨"M", false⟩ options 3 [⟨"AT"⟩]).run.play bench
    let whole := (run ⟨"M", false⟩ options 3 [⟨"AT"⟩, ⟨"ATZ"⟩]).run.play bench
    let record : Record := ⟨⟨"AT"⟩, .success, 1, 0, "OK\r\n"⟩
    let refused : Record := ⟨⟨"ATZ"⟩, .failure, 1, 0, "ERROR\r\n"⟩
    Tacit Bench ∧ first.result = some (.ok ⟨.completed 1, 1, [record]⟩) ∧
      whole.result = some (.ok ⟨.failed 2 2, 1, [record, refused]⟩) ∧
      whole.world.rig.sleeps = [5] := by
  intro bench options first whole record refused
  have hfirst : first.result = some (.ok ⟨.completed 1, 1, [record]⟩) := by cbv
  have hwhole := (run_append ⟨"M", false⟩ options 3 Bench.tacit [⟨"AT"⟩] [⟨"ATZ"⟩] bench).1 _
    hfirst rfl
  refine ⟨Bench.tacit, hfirst, (congrArg Played.result hwhole).trans ?_, ?_⟩
  · cbv
  · refine (congrArg (·.world.rig.sleeps) hwhole).trans ?_
    cbv

end

end Sequence

end ModemBench
