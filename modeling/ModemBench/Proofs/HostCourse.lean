import Mathlib.Data.List.Basic
import ModemBench.CommandLine.Program
import ModemBench.Proofs.Expansion
import ModemBench.Proofs.Traffic
/-!
The courses of the host: what making it ready and opening the link may exchange with the operating
system, and what of it breaks a run.
-/

namespace ModemBench

namespace Exchange

/-- Whether this breaks a run: a program of the preparation that does not start or succeed, a device
that cannot be opened, or a call of the port that fails. -/
def breaks : Exchange → Bool
  | ⟨.prepare _, .error _⟩ | ⟨.connect _ _, .error _⟩ | ⟨.start _ _, .error _⟩
  | ⟨.attach _, .error _⟩ => true
  | ⟨.start _ _, .ok status⟩ => !status.isSuccess
  | e => e.fails

/-- Whether this is one of the exchanges that get a host ready and a link open. -/
def ofHost : Exchange → Bool
  | ⟨.prepare _, _⟩ | ⟨.connect _ _, _⟩ | ⟨.start _ _, _⟩ | ⟨.attach _, _⟩
  | ⟨.note (.preparing _ _), _⟩ | ⟨.note (.prepared _ _), _⟩ | ⟨.note (.opened _ _ _), _⟩ => true
  | _ => false

end Exchange

namespace Preparation

/-- One step of the preparation. -/
inductive Stepped (port program : String) (arguments : List String) :
    List Exchange → Except PreparationError Unit → Prop where
  | succeeded (good : status.isSuccess = true) :
      Stepped port program arguments
        [⟨.note (.preparing (" ".intercalate (program :: arguments)) port), ()⟩,
          ⟨.start program arguments, .ok status⟩] (.ok ())
  | failed (bad : status.isSuccess = false) :
      Stepped port program arguments
        [⟨.note (.preparing (" ".intercalate (program :: arguments)) port), ()⟩,
          ⟨.start program arguments, .ok status⟩]
        (.error (.failed (" ".intercalate (program :: arguments)) status.text))
  | notStarted (reason : String) :
      Stepped port program arguments
        [⟨.note (.preparing (" ".intercalate (program :: arguments)) port), ()⟩,
          ⟨.start program arguments, .error reason⟩]
        (.error (.notStarted program reason))

theorem runStep_course {port program : String} {arguments : List String} {es : List Exchange}
    {r : Option (Except PreparationError Unit)}
    (h : Transcript (runStep port program arguments).run es r) :
    ∃ r', r = some r' ∧ Stepped port program arguments es r' := by
  obtain ⟨⟨⟩, rest, rfl, hrest⟩ := Transcript.of_perform h
  obtain ⟨started, rest, rfl, hended⟩ := Transcript.of_perform hrest
  match started with
  | .error reason =>
    obtain ⟨rfl, rfl⟩ := Transcript.of_throw hended
    exact ⟨_, rfl, .notStarted reason⟩
  | .ok status =>
    cases hstatus : status.isSuccess with
    | true =>
      simp only [hstatus] at hended
      obtain ⟨rfl, rfl⟩ := Transcript.of_pure hended
      exact ⟨_, rfl, .succeeded hstatus⟩
    | false =>
      simp only [hstatus] at hended
      obtain ⟨rfl, rfl⟩ := Transcript.of_throw hended
      exact ⟨_, rfl, .failed hstatus⟩

/-- The steps one after another, up to the first that breaks off. -/
inductive Prepared (port : String) :
    List (List String) → List Exchange → Except PreparationError Unit → Prop where
  | nothing : Prepared port [] [] (.ok ())
  | blank (rest : Prepared port steps es r) : Prepared port ([] :: steps) es r
  | next (now : Stepped port program arguments es (.ok ())) (rest : Prepared port steps es' r) :
      Prepared port ((program :: arguments) :: steps) (es ++ es') r
  | cut (now : Stepped port program arguments es (.error e)) :
      Prepared port ((program :: arguments) :: steps) es (.error e)

theorem runSteps_course {port : String} {steps : List (List String)} {es : List Exchange}
    {r : Option (Except PreparationError Unit)} (h : Transcript (runSteps port steps).run es r) :
    ∃ r', r = some r' ∧ Prepared port steps es r' := by
  induction steps generalizing es with
  | nil =>
    obtain ⟨rfl, rfl⟩ := Transcript.of_pure h
    exact ⟨_, rfl, .nothing⟩
  | cons step steps ih =>
    cases step with
    | nil =>
      obtain ⟨r', rfl, hrest⟩ := ih h
      exact ⟨r', rfl, .blank hrest⟩
    | cons program arguments =>
      rcases Transcript.of_sure_step runStep_course h with
        ⟨⟨⟩, first, second, rfl, hnow, hrest⟩ | ⟨e, hnow, rfl⟩
      · obtain ⟨r', rfl, hprepared⟩ := ih hrest
        exact ⟨r', rfl, .next hnow hprepared⟩
      · exact ⟨_, rfl, .cut hnow⟩

/-- Behind the steps comes at most a note. -/
theorem run_course {port : String} {steps : List (List String)} {es : List Exchange}
    {r : Option (Except PreparationError Unit)} (h : Transcript (run steps port).run es r) :
    ∃ r' b front, r = some r' ∧ es = front ++ noted b (.prepared steps.length port) ∧
      Prepared port steps front r' := by
  rcases Transcript.of_sure_step runSteps_course h with
    ⟨⟨⟩, first, second, rfl, hsteps, hlast⟩ | ⟨e, hsteps, rfl⟩
  · cases hnone : steps.isEmpty with
    | true =>
      simp only [hnone] at hlast
      obtain ⟨rfl, rfl⟩ := Transcript.of_pure hlast
      exact ⟨_, false, first, rfl, rfl, hsteps⟩
    | false =>
      simp only [hnone] at hlast
      obtain ⟨⟨⟩, rfl, rfl⟩ := Transcript.of_perform_last hlast
      exact ⟨_, true, first, rfl, rfl, hsteps⟩
  · exact ⟨_, false, es, rfl, (List.append_nil es).symm, hsteps⟩

/-- Where no step is listed, running the steps does nothing either. -/
theorem ofSettings_eq_run (steps : List (List String)) (port : String) :
    ofSettings steps port = run steps port := by
  cases steps <;> rfl

end Preparation

/-- Exchanges with the host alone, and whether one of them breaks the run. -/
structure HostTalk (es : List Exchange) (broken : Bool) : Prop where
  host : ∀ e ∈ es, e.ofHost = true
  breaks : es.any Exchange.breaks = broken

namespace HostTalk

variable {es es' : List Exchange} {broken broken' : Bool}

theorem nil : HostTalk [] false := ⟨List.forall_mem_nil _, rfl⟩

theorem append (h : HostTalk es broken) (h' : HostTalk es' broken') :
    HostTalk (es ++ es') (broken || broken') where
  host := List.forall_mem_append.mpr ⟨h.host, h'.host⟩
  breaks := by rw [List.any_append, h.breaks, h'.breaks]

end HostTalk

theorem Preparation.Stepped.host {port program : String} {arguments : List String}
    {es : List Exchange} {r : Except PreparationError Unit}
    (h : Stepped port program arguments es r) : HostTalk es !r.isOk := by
  cases h with
  | succeeded good | failed bad =>
    refine ⟨by simp [Exchange.ofHost], ?_⟩
    simp [Exchange.breaks, Exchange.fails, Except.isOk, Except.toBool, *]
  | notStarted reason => exact ⟨by simp [Exchange.ofHost], rfl⟩

theorem Preparation.Prepared.host {port : String} {steps : List (List String)}
    {es : List Exchange} {r : Except PreparationError Unit} (h : Prepared port steps es r) :
    HostTalk es !r.isOk := by
  induction h with
  | nothing => exact .nil
  | blank rest ih => exact ih
  | next now rest ih => exact now.host.append ih
  | cut now => exact now.host

theorem Preparation.ofSettings_host {port : String} {steps : List (List String)}
    {es : List Exchange} {r : Option (Except PreparationError Unit)}
    (h : Transcript (ofSettings steps port).run es r) :
    ∃ r', r = some r' ∧ HostTalk es !r'.isOk := by
  rw [ofSettings_eq_run] at h
  obtain ⟨r', b, front, rfl, rfl, hsteps⟩ := run_course h
  refine ⟨r', rfl, ?_⟩
  rw [← Bool.or_false (!r'.isOk)]
  exact hsteps.host.append (by cases b <;> exact ⟨by simp [noted, Exchange.ofHost], rfl⟩)

theorem openLine_host {serial : Serial} {verbose : Bool} {es : List Exchange}
    {r : Option (Except LinkError Line)} (h : Transcript (openLine serial verbose).run es r) :
    ∃ r', r = some r' ∧ HostTalk es !r'.isOk := by
  obtain ⟨attached, rest, rfl, hrest⟩ := Transcript.of_perform h
  match attached with
  | .error e =>
    obtain ⟨rfl, rfl⟩ := Transcript.of_throw hrest
    exact ⟨_, rfl, by simp [Exchange.ofHost], rfl⟩
  | .ok () =>
    obtain ⟨⟨⟩, rest, rfl, hlast⟩ := Transcript.of_perform hrest
    obtain ⟨rfl, rfl⟩ := Transcript.of_pure hlast
    exact ⟨_, rfl, by simp [Exchange.ofHost], rfl⟩

/-- How a question is answered on behalf of the host: by exchanges that break the run if the answer
does, or by passing it on. -/
inductive Served (e : Exchange) : List Exchange → Prop where
  | host (asked : e.ofHost = true) (talk : HostTalk es e.breaks) : Served e es
  | passed : Served e [e]

namespace CommandLine

theorem services_course {s : Settings} {q : Ask} {es : List Exchange} {r : Option q.Answer}
    (h : Transcript (services s q) es r) : ∃ answer, r = some answer ∧ Served ⟨q, answer⟩ es := by
  cases q with
  | prepare port =>
    obtain ⟨answer, rfl, talk⟩ := Preparation.ofSettings_host h
    refine ⟨answer, rfl, .host rfl ?_⟩
    cases answer <;> exact talk
  | connect serial verbose =>
    obtain ⟨answer, rfl, talk⟩ := openLine_host h
    refine ⟨answer, rfl, .host rfl ?_⟩
    cases answer <;> exact talk
  | _ =>
    obtain ⟨answer, rfl, rfl⟩ := Transcript.of_perform_only h
    exact ⟨answer, rfl, .passed⟩

theorem services_end (s : Settings) (q : Ask) (es : List Exchange) :
    ¬ Transcript (services s q) es none := by
  intro h
  obtain ⟨answer, hr, -⟩ := services_course h
  cases hr

theorem services_served {s : Settings} {q : Ask} {es : List Exchange} {answer : q.Answer}
    (h : Transcript (services s q) es (some answer)) : Served ⟨q, answer⟩ es := by
  obtain ⟨answer', hr, served⟩ := services_course h
  cases hr
  exact served

end CommandLine

namespace Served

variable {e : Exchange} {es : List Exchange}

theorem breaks (h : Served e es) : es.any Exchange.breaks = [e].any Exchange.breaks := by
  cases h with
  | host asked talk => simpa using talk.breaks
  | passed => rfl

/-- What the host has no part in is the same of the exchanges as of the question. -/
theorem filter {p : Exchange → Bool} (hp : ∀ e, e.ofHost = true → p e = false)
    (h : Served e es) : es.filter p = [e].filter p := by
  cases h with
  | host asked talk =>
    have hes : es.filter p = [] := List.filter_eq_nil_iff.mpr fun e he => by
      simp [hp e (talk.host e he)]
    simp [hes, hp e asked]
  | passed => rfl

theorem sendings (h : Served e es) : sendings es = sendings [e] := by
  have hquiet : ∀ e : Exchange, e.ofHost = true → e.sending? = none := by
    rintro ⟨q, answer⟩ he
    cases q with
    | note entry => cases entry <;> first | rfl | cases he
    | _ => rfl
  cases h with
  | host asked talk =>
    have hes : ModemBench.sendings es = [] :=
      List.filterMap_eq_nil_iff.mpr fun e he => hquiet e (talk.host e he)
    simp [hes, hquiet e asked]
  | passed => rfl

end Served

end ModemBench
