import ModemBench.Bench.Willing
import ModemBench.Proofs.HostCourse
import ModemBench.Proofs.Layers
/-!
The order of a preparation. Programs are started one after another, as the steps list them, and
nothing is started behind the first that cannot be started or does not succeed.
-/

namespace ModemBench

/-- A program that was to be started, and what came of it. -/
structure Started where
  program : String
  arguments : List String
  outcome : Except String ExitStatus

namespace Started

def words (x : Started) : List String := x.program :: x.arguments

/-- Why the program breaks a preparation off, if it does. -/
def failure? (x : Started) : Option PreparationError :=
  match x.outcome with
  | .error reason => some (.notStarted x.program reason)
  | .ok status =>
    if status.isSuccess then none else some (.failed (" ".intercalate x.words) status.text)

end Started

def Exchange.started? : Exchange → Option Started
  | ⟨.start program arguments, outcome⟩ => some ⟨program, arguments, outcome⟩
  | _ => none

/-- The programs among exchanges, in order. -/
def programs (es : List Exchange) : List Started := es.filterMap Exchange.started?

theorem programs_append (es es' : List Exchange) :
    programs (es ++ es') = programs es ++ programs es' := List.filterMap_append

theorem programs_noted (b : Bool) (entry : Note) : programs (noted b entry) = [] := by
  cases b <;> rfl

/-- Programs started in the order of the entries that name them, up to the first that does not
succeed, and what is said of that one. -/
structure InOrder (entries : List (List String)) (started : List Started)
    (r : Except PreparationError Unit) : Prop where
  inOrder : started.map Started.words <+: entries
  /-- Nothing is started behind a program that does not succeed. -/
  still : ∀ front x rest, started = front ++ x :: rest → x.failure? ≠ none → rest = []
  ok_iff : r = .ok () ↔ ∀ x ∈ started, x.failure? = none
  whole : r = .ok () → started.map Started.words = entries
  error_iff : ∀ e, r = .error e ↔ ∃ x ∈ started, x.failure? = some e

namespace InOrder

variable {entries : List (List String)} {started : List Started} {x : Started}
  {r : Except PreparationError Unit}

theorem nil : InOrder [] [] (.ok ()) where
  inOrder := List.prefix_rfl
  still := by simp
  ok_iff := by simp
  whole _ := rfl
  error_iff := by simp

theorem cons (h : InOrder entries started r) (good : x.failure? = none) :
    InOrder (x.words :: entries) (x :: started) r where
  inOrder := List.cons_prefix_cons.mpr ⟨rfl, h.inOrder⟩
  still := by
    intro front y rest split bad
    rcases List.cons_eq_append_iff.mp split with ⟨rfl, hcons⟩ | ⟨front, rfl, hstarted⟩
    · cases hcons
      exact absurd good bad
    · exact h.still front y rest hstarted bad
  ok_iff := by
    rw [h.ok_iff, List.forall_mem_cons]
    exact (and_iff_right good).symm
  whole hok := by rw [List.map_cons, h.whole hok]
  error_iff e := by simp [h.error_iff, good]

theorem cut {e : PreparationError} (bad : x.failure? = some e) :
    InOrder (x.words :: entries) [x] (.error e) where
  inOrder := List.cons_prefix_cons.mpr ⟨rfl, List.nil_prefix⟩
  still := by
    intro front y rest split _
    rcases List.singleton_eq_append_iff.mp split with ⟨-, hcons⟩ | ⟨-, hcons⟩
    · exact (List.cons_eq_cons.mp hcons).2
    · cases hcons
  ok_iff := by simp [bad]
  whole := nofun
  error_iff e' := by simp [bad]

end InOrder

namespace Preparation

variable {port program : String} {arguments : List String} {es : List Exchange}
  {r : Except PreparationError Unit}

/-- A step starts its program and nothing else. -/
theorem Stepped.programs (h : Stepped port program arguments es r) :
    ∃ x : Started, x.words = program :: arguments ∧ ModemBench.programs es = [x] ∧
      (r = .ok () → x.failure? = none) ∧ ∀ e, r = .error e → x.failure? = some e := by
  cases h with
  | succeeded good =>
    exact ⟨⟨program, arguments, .ok _⟩, rfl, rfl, fun _ => by simp [Started.failure?, good], nofun⟩
  | failed bad =>
    refine ⟨⟨program, arguments, .ok _⟩, rfl, rfl, nofun, ?_⟩
    rintro _ ⟨⟩
    simp [Started.failure?, Started.words, bad]
  | notStarted reason =>
    refine ⟨⟨program, arguments, .error reason⟩, rfl, rfl, nofun, ?_⟩
    rintro _ ⟨⟩
    rfl

theorem Prepared.inOrder {steps : List (List String)} (h : Prepared port steps es r) :
    InOrder (steps.filter (· ≠ [])) (ModemBench.programs es) r := by
  induction h with
  | nothing => exact .nil
  | blank rest ih => exact ih
  | next now rest ih =>
    obtain ⟨x, hwords, hstarted, hgood, -⟩ := now.programs
    rw [programs_append, hstarted, List.filter_cons_of_pos (by simp), ← hwords]
    exact ih.cons (hgood rfl)
  | cut now =>
    obtain ⟨x, hwords, hstarted, -, hbad⟩ := now.programs
    rw [hstarted, List.filter_cons_of_pos (by simp), ← hwords]
    exact .cut (hbad _ rfl)

/-- Settings without a flaw list no empty step. -/
theorem filter_of_flawless {s : Settings} (h : s.flaw? = none) :
    s.preparation.filter (· ≠ []) = s.preparation := by
  obtain ⟨-, -, hall⟩ := Settings.flaw?_eq_none.mp h
  apply List.filter_eq_self.mpr
  rintro (_ | ⟨program, arguments⟩) hstep
  · exact absurd (List.all_eq_true.mp hall _ hstep) (by decide)
  · simp

/-- Whatever the host does with the programs, a preparation comes to an end, and has started the
steps that are not empty one after another, up to the first that breaks it off. Settings without a
flaw list no other steps, and what they ask for is the same also where they list none. -/
theorem run_in_order {σ : Type} [World σ] (steps : List (List String)) (port : String) (w : σ) :
    let played := (run steps port).run.play w
    ofSettings steps port = run steps port ∧ ∃ r, played.result = some r ∧
      InOrder (steps.filter (· ≠ [])) (programs played.exchanges) r ∧
      ∀ s : Settings, s.flaw? = none → s.preparation = steps →
        InOrder steps (programs played.exchanges) r := by
  intro played
  obtain ⟨r, b, front, hresult, hexchanges, hsteps⟩ :=
    run_course ((run steps port).run.play_transcript w)
  have hprograms : programs played.exchanges = programs front := by
    rw [hexchanges, programs_append, programs_noted, List.append_nil]
  have horder := hsteps.inOrder
  rw [← hprograms] at horder
  refine ⟨ofSettings_eq_run steps port, r, hresult, horder, ?_⟩
  rintro s hflaw rfl
  rwa [filter_of_flawless hflaw] at horder

/-- A host on which the outcome of a program depends on its name alone. -/
structure Tabled where
  outcome : String → Except String ExitStatus

instance : World Tabled where
  answer
    | .start program _, w => (w.outcome program, w)
    | q, w => ((World.answer q Willing.mk).1, w)

/-- The second program does not succeed, so the third is not started. -/
theorem refused_run_in_order :
    let s : Settings := { preparation := [["load"], ["gain", "3"], ["late"]] }
    let host : Tabled := ⟨fun program => .ok (.code (if program = "gain" then 3 else 0))⟩
    let played := (run s.preparation "M").run.play host
    let e : PreparationError := .failed "gain 3" "exit status: 3"
    s.flaw? = none ∧ played.result = some (.error e) ∧
      InOrder s.preparation (programs played.exchanges) (.error e) := by
  intro s host played e
  have hflaw : s.flaw? = none := by decide
  have hresult : played.result = some (.error e) := by cbv
  obtain ⟨-, r, hr, -, hsound⟩ := run_in_order s.preparation "M" host
  obtain rfl := Option.some.inj (hr.symm.trans hresult)
  exact ⟨hflaw, hresult, hsound s hflaw rfl⟩

end Preparation

end ModemBench
