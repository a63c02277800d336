import ModemBench.Proofs.HostCourse
import ModemBench.Proofs.PlanStages
/-!
The courses of the program: where it ends before a plan is run, and what running one exchanges with
the host, the port and the user. Complaints are left out, for how much is said depends on the filter
of the log alone.
-/

namespace ModemBench

namespace Exchange

/-- A line that is shown to the user on the side. -/
def complains : Exchange → Bool
  | ⟨.complain _, _⟩ => true
  | _ => false

theorem complains_of_ofHost {e : Exchange} (h : e.ofHost = true) : e.complains = false := by
  rcases e with ⟨q, answer⟩
  cases q <;> first | rfl | cases h

theorem complains_of_onLine {e : Exchange} (h : e.question.onLine = true) :
    e.complains = false := by
  rcases e with ⟨q, answer⟩
  cases q <;> first | rfl | cases h

end Exchange

/-- The exchanges without the complaints. -/
def muted (es : List Exchange) : List Exchange := es.filter (!·.complains)

@[simp] theorem muted_append (es es' : List Exchange) : muted (es ++ es') = muted es ++ muted es' :=
  List.filter_append ..

theorem muted_eq_self {es : List Exchange} (h : ∀ e ∈ es, e.complains = false) : muted es = es :=
  List.filter_eq_self.mpr fun e he => by rw [h e he]; rfl

theorem Dialogue.Asks.transcript {α : Type} {P : Ask → Prop} {d : Dialogue α} {es : List Exchange}
    {r : Option α} (h : d.Asks P) (ht : Transcript d es r) : ∀ e ∈ es, P e.question := by
  induction ht with
  | done | halted => exact List.forall_mem_nil _
  | ask answer rest ih => exact List.forall_mem_cons.mpr ⟨h.1, ih (h.2 answer)⟩

namespace Plan

theorem send_onLine (plan : Plan) (settings : Settings) (patience : Nat) (line : Line) :
    OnLine (plan.send settings patience line) := by
  refine (line.discard_onLine.adapt _).bind fun _ => ?_
  exact ((Sequence.run_onLine line _ patience plan.commands).adapt _).bind fun _ => trivial

/-- Behind the link nothing is asked but what there is to ask on it. -/
theorem run_behind {plan : Plan} {settings : Settings} {patience : Nat} {es : List Exchange}
    {r : Option (Except Failure Summary)} (h : Transcript (plan.run settings patience).run es r) :
    ∀ e ∈ es.drop 3, e.question.onLine = true := by
  rw [run_eq] at h
  obtain ⟨⟨⟩, rest, rfl, hprepare⟩ := Transcript.of_perform h
  obtain ⟨prepared, rest, rfl, hconnect⟩ := Transcript.of_perform hprepare
  match prepared with
  | .error e =>
    obtain ⟨rfl, rfl⟩ := Transcript.of_throw hconnect
    exact List.forall_mem_nil _
  | .ok () =>
    obtain ⟨connected, rest, rfl, hsent⟩ := Transcript.of_perform hconnect
    match connected with
    | .error e =>
      obtain ⟨rfl, rfl⟩ := Transcript.of_throw hsent
      exact List.forall_mem_nil _
    | .ok line => exact (plan.send_onLine settings patience line).transcript hsent

end Plan

namespace CommandLine

theorem services_onLine {s : Settings} {q : Ask} (h : q.onLine = true) :
    services s q = .perform q := by
  cases q <;> first | rfl | cases h

theorem warn_course {complaints : List String} {es : List Exchange} {r : Option Unit}
    (h : Transcript (warn complaints) es r) : r = some () ∧ muted es = [] := by
  induction complaints generalizing es with
  | nil =>
    cases h
    exact ⟨rfl, rfl⟩
  | cons complaint rest ih =>
    cases h with
    | ask answer hrest =>
      obtain ⟨hr, hmuted⟩ := ih hrest
      exact ⟨hr, hmuted⟩

theorem logged_course {filter : LogFilter} {q : Ask} {es : List Exchange} {r : Option q.Answer}
    (h : Transcript (logged filter q) es r) :
    ∃ answer, r = some answer ∧
      (es = [⟨q, answer⟩] ∨ ∃ text, es = [⟨q, answer⟩, ⟨.complain text, ()⟩]) := by
  cases q with
  | note n =>
    cases h with
    | ask answer rest =>
      cases hshown : filter.shows n with
      | true =>
        simp only [hshown] at rest
        obtain ⟨⟨⟩, rfl, rfl⟩ := Transcript.of_perform_only rest
        exact ⟨(), rfl, .inr ⟨_, rfl⟩⟩
      | false =>
        simp only [hshown] at rest
        cases rest
        exact ⟨(), rfl, .inl rfl⟩
  | _ =>
    obtain ⟨answer, rfl, rfl⟩ := Transcript.of_perform_only h
    exact ⟨answer, rfl, .inl rfl⟩

theorem logged_end (filter : LogFilter) (q : Ask) (es : List Exchange) :
    ¬ Transcript (logged filter q) es none := by
  intro h
  obtain ⟨answer, hr, -⟩ := logged_course h
  cases hr

/-- The log adds complaints and nothing else. -/
theorem logged_muted {filter : LogFilter} {inside es : List Exchange}
    (h : Expanded (logged filter) inside es) : muted es = muted inside := by
  refine h.image (· ++ ·) muted_append fun q es answer ht => ?_
  obtain ⟨answer', hr, rfl | ⟨text, rfl⟩⟩ := logged_course ht
  · cases hr
    rfl
  · cases hr
    exact (muted_append [⟨q, answer⟩] [_]).trans (List.append_nil _)

/-- The settings are there, and a filter for the log. -/
structure Ready (a : Arguments) (around : Surroundings) (s : Settings) : Prop where
  unlisted : a.list = false
  loaded : loadSettings a around = .ok s
  filtered : ∃ filter complaints, s.logging.filter around = .ok (filter, complaints)

/-- What the program says last of a plan that has been run. -/
def lastWord (json : Bool) : Option (Except Failure Summary) → List Exchange
  | none => []
  | some (.error e) => [⟨.note (.gaveUp e.message), ()⟩]
  | some (.ok summary) => [⟨.print (showSummary summary json), ()⟩]

def exitCode : Except Failure Summary → Nat
  | .error e => e.exitCode
  | .ok summary => summary.report.exitCode

/-- A plan that was run with a host that serves it. -/
structure Hosted (plan : Plan) (s : Settings) (inside es : List Exchange)
    (outcome : Option (Except Failure Summary)) : Prop where
  performed : plan.Performed s inside outcome
  behind : ∀ e ∈ inside.drop 3, e.question.onLine = true
  served : Expanded (services s) inside es

namespace Hosted

variable {plan : Plan} {s : Settings} {inside es : List Exchange}
  {outcome : Option (Except Failure Summary)}

/-- What the host has no part in is the same of the plan by itself. -/
theorem filter {p : Exchange → Bool} (h : Hosted plan s inside es outcome)
    (hp : ∀ e, e.ofHost = true → p e = false) : es.filter p = inside.filter p :=
  h.served.image (· ++ ·) (fun _ _ => List.filter_append ..) fun _ _ _ ht =>
    (services_served ht).filter hp

theorem breaks (h : Hosted plan s inside es outcome) :
    es.any Exchange.breaks = inside.any Exchange.breaks :=
  h.served.image or (fun _ _ => List.any_append) fun _ _ _ ht => (services_served ht).breaks

/-- A plan complains of nothing by itself. -/
theorem silent (h : Hosted plan s inside es outcome) : muted es = es := by
  have hinside : ∀ e ∈ inside, e.complains = false := by
    intro e he
    rw [← List.take_append_drop 3 inside, List.mem_append] at he
    rcases he with htake | hdrop
    · obtain ⟨performed, -, -⟩ := h
      cases performed <;> simp [Plan.opening] at htake <;> grind [Exchange.complains]
    · exact Exchange.complains_of_onLine (h.behind e hdrop)
  have hnone : es.filter (·.complains) = [] := by
    rw [h.filter fun _ => Exchange.complains_of_ofHost]
    exact List.filter_eq_nil_iff.mpr fun e he => by simp [hinside e he]
  refine muted_eq_self fun e he => ?_
  simpa using List.filter_eq_nil_iff.mp hnone e he

end Hosted

/-- The program from its arguments to its exit code. -/
inductive Held (a : Arguments) (around : Surroundings) : List Exchange → Option Nat → Prop where
  | listed (asked : a.list = true) : Held a around [⟨.print Suite.catalogue, ()⟩] (some 0)
  | unset (unlisted : a.list = false) (failed : loadSettings a around = .error e) :
      Held a around [] (some 3)
  | unfiltered (unlisted : a.list = false) (loaded : loadSettings a around = .ok s)
      (broken : s.logging.filter around = .error fault) : Held a around [] (some brokenFilter)
  | unknown (ready : Ready a around s)
      (refused : resolve (a.family.getD 0) a.case? s.parameters = .error e) :
      Held a around [] (some 2)
  | shown (ready : Ready a around s) (made : Plan.make (a.family.getD 0) a.case? s = .ok plan)
      (asked : a.dryRun = true) :
      Held a around [⟨.print (showPlan plan a.json), ()⟩] (some 0)
  | ran (ready : Ready a around s) (made : Plan.make (a.family.getD 0) a.case? s = .ok plan)
      (unasked : a.dryRun = false) (hosted : Hosted plan s inside es outcome) :
      Held a around (es ++ lastWord a.json outcome) (outcome.map exitCode)

theorem make_eq_error {family : Nat} {case? : Option Nat} {s : Settings} {e : Failure}
    (h : Plan.make family case? s = .error e) :
    ∃ u, resolve family case? s.parameters = .error u ∧ e = .usage u := by
  unfold Plan.make at h
  unfold resolve
  cases hs : Selection.ofIndices family case? with
  | error u =>
    rw [hs] at h
    cases h
    exact ⟨u, rfl, rfl⟩
  | ok selection =>
    rw [hs] at h
    cases h

theorem make_eq_ok {family : Nat} {case? : Option Nat} {s : Settings} {plan : Plan}
    (h : Plan.make family case? s = .ok plan) :
    resolve family case? s.parameters = .ok plan.commands := by
  unfold Plan.make at h
  unfold resolve
  cases hs : Selection.ofIndices family case? with
  | error u =>
    rw [hs] at h
    cases h
  | ok selection =>
    rw [hs] at h
    cases h
    rfl

theorem runPlan_course {a : Arguments} {s : Settings} {patience : Nat} {plan : Plan}
    {es : List Exchange} {r : Option Nat} (h : Transcript (runPlan a s patience plan) es r) :
    ∃ inside outcome served, Hosted plan s inside served outcome ∧
      es = served ++ lastWord a.json outcome ∧ r = outcome.map exitCode := by
  have hosted {inside served : List Exchange} {outcome : Option (Except Failure Summary)}
      (hrun : Transcript (plan.run s patience).run inside outcome)
      (hserved : Expanded (services s) inside served) : Hosted plan s inside served outcome :=
    ⟨Plan.run_course hrun, Plan.run_behind hrun, hserved⟩
  rcases Transcript.of_bind h with ⟨outcome, served, last, rfl, hserved, hlast⟩ | ⟨hserved, rfl⟩
  · obtain ⟨inside, hrun, hserved⟩ := Transcript.of_expand (services_end s) hserved
    refine ⟨inside, some outcome, served, hosted hrun hserved, ?_⟩
    cases outcome with
    | error e =>
      cases hlast with
      | ask answer hdone =>
        cases hdone
        exact ⟨rfl, rfl⟩
    | ok summary =>
      cases hlast with
      | ask answer hdone =>
        cases hdone
        exact ⟨rfl, rfl⟩
  · obtain ⟨inside, hrun, hserved⟩ := Transcript.of_expand (services_end s) hserved
    exact ⟨inside, none, es, hosted hrun hserved, (List.append_nil es).symm, rfl⟩

theorem runLoaded_course {a : Arguments} {around : Surroundings} {s : Settings} {patience : Nat}
    {es : List Exchange} {r : Option Nat} (ready : Ready a around s)
    (h : Transcript (runLoaded a s patience) es r) : Held a around (muted es) r := by
  unfold runLoaded at h
  cases hmake : Plan.make (a.family.getD 0) a.case? s with
  | error e =>
    obtain ⟨u, hrefused, rfl⟩ := make_eq_error hmake
    rw [hmake] at h
    cases h with
    | ask answer hdone =>
      cases hdone
      exact .unknown ready hrefused
  | ok plan =>
    rw [hmake] at h
    dsimp only at h
    cases hdry : a.dryRun with
    | true =>
      rw [hdry, if_pos rfl] at h
      cases h with
      | ask answer hdone =>
        cases hdone
        exact .shown ready hmake hdry
    | false =>
      rw [hdry, if_neg Bool.false_ne_true] at h
      obtain ⟨inside, outcome, served, hosted, rfl, rfl⟩ := runPlan_course h
      have hlast : muted (lastWord a.json outcome) = lastWord a.json outcome := by
        rcases outcome with _ | _ | _ <;> rfl
      rw [muted_append, hosted.silent, hlast]
      exact .ran ready hmake hdry hosted

theorem program_eq {words : List String} {a : Arguments} {around : Surroundings} {s : Settings}
    {filter : LogFilter} {complaints : List String} {patience : Nat}
    (accepted : invocation words = .run a) (unlisted : a.list = false)
    (loaded : loadSettings a around = .ok s)
    (filtered : s.logging.filter around = .ok (filter, complaints)) :
    program words around patience = (do
      warn complaints
      (runLoaded a s patience).expand (logged filter)) := by
  rw [program, accepted]
  dsimp only
  rw [runArguments, unlisted, if_neg Bool.false_ne_true, loaded]
  dsimp only
  rw [filtered]

/-- Whatever the host, the port and the clock do, this is what the program exchanges. -/
theorem program_course {words : List String} {a : Arguments} {around : Surroundings}
    {patience : Nat} {es : List Exchange} {r : Option Nat} (accepted : invocation words = .run a)
    (h : Transcript (program words around patience) es r) : Held a around (muted es) r := by
  have hprogram : program words around patience = runArguments a around patience := by
    rw [program, accepted]
  cases hlist : a.list with
  | true =>
    rw [hprogram, runArguments, hlist, if_pos rfl] at h
    cases h with
    | ask answer hdone =>
      cases hdone
      exact .listed hlist
  | false =>
    cases hload : loadSettings a around with
    | error e =>
      rw [hprogram, runArguments, hlist, if_neg Bool.false_ne_true, hload] at h
      cases h with
      | ask answer hdone =>
        cases hdone
        exact .unset hlist hload
    | ok s =>
      cases hfilter : s.logging.filter around with
      | error fault =>
        rw [hprogram, runArguments, hlist, if_neg Bool.false_ne_true, hload] at h
        dsimp only at h
        rw [hfilter] at h
        cases h with
        | ask answer hdone =>
          cases hdone
          exact .unfiltered hlist hload hfilter
      | ok logging =>
        obtain ⟨filter, complaints⟩ := logging
        rw [program_eq accepted hlist hload hfilter] at h
        rcases Transcript.of_bind h with ⟨⟨⟩, first, second, rfl, hwarn, hrest⟩ | ⟨hwarn, -⟩
        · obtain ⟨-, hsilent⟩ := warn_course hwarn
          obtain ⟨inside, hloaded, hlogged⟩ := Transcript.of_expand (logged_end filter) hrest
          rw [muted_append, hsilent, List.nil_append, logged_muted hlogged]
          exact runLoaded_course ⟨hlist, hload, filter, complaints, hfilter⟩ hloaded
        · obtain ⟨hr, -⟩ := warn_course hwarn
          cases hr

end CommandLine

end ModemBench
