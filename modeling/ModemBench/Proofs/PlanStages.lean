import Mathlib
import ModemBench.Bench.World
import ModemBench.Proofs.PlanCourse
import ModemBench.Proofs.Reaching
/-!
The stages of a plan. The host is made ready, the link opened and the line cleared, each once and
in this order, and each only if the one before succeeded; then the commands are run from there.
What was waiting at the modem before makes no difference.
-/

namespace ModemBench

/-- What there is to ask once a link is open: the port, the time, and the log. -/
def Ask.onLine : Ask → Bool
  | write _ | flush | read _ | clear | clock | tellable _ | sleep _ | note _ => true
  | _ => false

namespace Dialogue

variable {α β : Type} {P : Ask → Prop}

/-- Whatever it is answered, the dialogue asks nothing else. -/
def Asks (P : Ask → Prop) : Dialogue α → Prop
  | done _ | halted _ => True
  | ask q next => P q ∧ ∀ answer, (next answer).Asks P

theorem Asks.bind {d : Dialogue α} {f : α → Dialogue β} (h : d.Asks P)
    (hf : ∀ a, (f a).Asks P) : (d.bind f).Asks P := by
  induction d with
  | done a => exact hf a
  | halted => trivial
  | ask q next ih => exact ⟨h.1, fun answer => ih answer (h.2 answer)⟩

theorem Asks.play {σ : Type} [World σ] {d : Dialogue α} (h : d.Asks P) (w : σ) :
    ∀ e ∈ (d.play w).exchanges, P e.question := by
  induction d generalizing w with
  | done | halted => exact List.forall_mem_nil _
  | ask q next ih => exact List.forall_mem_cons.mpr ⟨h.1, ih _ (h.2 _) _⟩

end Dialogue

/-- The talk asks nothing but what there is to ask on an open link. -/
def OnLine {ε α : Type} (x : Talk ε α) : Prop := x.run.Asks fun q => q.onLine = true

namespace OnLine

variable {ε ε' α β : Type} {x : Talk ε α} {f : α → Talk ε β}

theorem bind (h : OnLine x) (hf : ∀ a, OnLine (f a)) : OnLine (x >>= f) := by
  refine Dialogue.Asks.bind h fun r => ?_
  match r with
  | .ok a => exact hf a
  | .error e => trivial

theorem ask {q : Ask} {f : q.Answer → Talk ε β} (hq : q.onLine = true)
    (hf : ∀ answer, OnLine (f answer)) : OnLine (liftM (Dialogue.perform q) >>= f) := ⟨hq, hf⟩

theorem adapt (h : OnLine x) (g : ε → ε') : OnLine (x.adapt g) :=
  Dialogue.Asks.bind h fun _ => trivial

theorem noted {p : Bool} {entry : Note} (h : OnLine x) :
    OnLine (if p = true then do
      let _ ← (liftM (Dialogue.perform (.note entry)) : Talk ε Unit); x else x) := by
  split
  · exact .ask rfl fun _ => h
  · exact h

end OnLine

theorem Line.push_onLine (line : Line) (total written : Nat) (left : Bytes) :
    OnLine (line.push total written left) := by
  fun_induction Line.push line total written left with
  | case1 => trivial
  | case2 written left more ih =>
    refine .ask rfl fun answer => ?_
    rcases answer with e | _ | n
    · trivial
    · trivial
    · exact ih n

theorem Line.send_onLine (line : Line) (c : Command) : OnLine (line.send c) := by
  refine .noted (.bind (line.push_onLine _ _ _) fun written => .ask rfl fun answer => ?_)
  match answer with
  | .error _ => trivial
  | .ok () => exact ⟨rfl, fun _ => trivial⟩

theorem Line.receive_onLine (line : Line) : OnLine line.receive := by
  refine .ask rfl fun answer => ?_
  match answer with
  | .ok chunk => exact .noted trivial
  | .error e =>
    change OnLine (if e.isReadTimeout = true then pure [] else _)
    split <;> trivial

theorem Line.discard_onLine (line : Line) : OnLine line.discard := by
  refine .ask rfl fun answer => ?_
  match answer with
  | .error _ | .ok () => trivial

namespace Sequence

theorem gather_onLine (line : Line) (due : Option Nat) (patience : Nat) (received : Bytes) :
    OnLine (gather line due patience received) := by
  induction patience generalizing received with
  | zero => trivial
  | succ patience ih =>
    have hlook : OnLine (liftM (overdue due) : Talk LinkError Bool) := by
      cases due with
      | none => trivial
      | some time => exact ⟨rfl, fun _ => trivial⟩
    refine line.receive_onLine.bind fun chunk => ?_
    dsimp only
    split
    · trivial
    · refine hlook.bind fun late => ?_
      split
      · trivial
      · exact ih _

theorem attempt_onLine (line : Line) (options : RunOptions) (patience : Nat) (c : Command)
    (number : Nat) : OnLine (attempt line options patience c number) := by
  have hset : OnLine (liftM (dueIn options.deadline) : Talk LinkError (Option Nat)) := by
    cases options.deadline with
    | none => trivial
    | some duration =>
      refine .ask rfl fun now => .ask rfl fun possible => ?_
      cases possible <;> trivial
  refine .ask rfl fun _ => (line.send_onLine c).bind fun _ => .ask rfl fun _ => ?_
  exact hset.bind fun due => gather_onLine line due patience []

theorem settle_onLine (line : Line) (options : RunOptions) (patience : Nat) (c : Command) :
    OnLine (settle line options patience c) := by
  refine (attempt_onLine line options patience c 1).bind fun first => ?_
  split
  · refine .ask rfl fun _ => line.discard_onLine.bind fun _ => ?_
    exact (attempt_onLine line options patience c 2).bind fun _ => trivial
  · trivial

theorem execute_onLine (line : Line) (options : RunOptions) (patience : Nat) (c : Command) :
    OnLine (execute line options patience c) := by
  refine .ask rfl fun start => (settle_onLine line options patience c).bind fun ended => ?_
  exact .ask rfl fun finish => .ask rfl fun _ => trivial

theorem advance_onLine (line : Line) (options : RunOptions) (patience total : Nat)
    (records : List Record) (commands : List Command) :
    OnLine (advance line options patience total records commands) := by
  induction commands generalizing records with
  | nil => trivial
  | cons c rest ih =>
    refine ((execute_onLine line options patience c).adapt _).bind fun r => ?_
    dsimp only
    split
    · split
      · exact .ask rfl fun _ => ih _
      · exact ih _
    · trivial
    · trivial

theorem run_onLine (line : Line) (options : RunOptions) (patience : Nat)
    (commands : List Command) : OnLine (run line options patience commands) := by
  refine .ask rfl fun _ => ?_
  exact (advance_onLine line options patience _ [] commands).bind fun _ => .ask rfl fun _ => trivial

end Sequence

theorem Talk.play_ask {ε α σ : Type} [World σ] {q : Ask} {f : q.Answer → Talk ε α}
    {answer : q.Answer} {w w' : σ} (h : World.answer q w = (answer, w')) :
    (liftM (Dialogue.perform q) >>= f : Talk ε α).run.play w =
      ⟨((f answer).run.play w').result, ⟨q, answer⟩ :: ((f answer).run.play w').exchanges,
        ((f answer).run.play w').world⟩ := by
  have hplay : (liftM (Dialogue.perform q) >>= f : Talk ε α).run.play w =
      let r := World.answer q w
      ⟨((f r.1).run.play r.2).result, ⟨q, r.1⟩ :: ((f r.1).run.play r.2).exchanges,
        ((f r.1).run.play r.2).world⟩ := rfl
  rw [hplay, h]

namespace Plan

/-- What is noted before anything is touched. -/
def note (plan : Plan) : Note :=
  .selected plan.selection.family plan.selection.label plan.commands.length

/-- What the end of a run is for the plan. -/
def concludes (plan : Plan) (line : Line) : Except Interruption Report → Except Failure Summary
  | .ok report => .ok ⟨plan.selection.family.name, plan.selection.label, line.port, report⟩
  | .error i => .error (.interrupted i)

/-- A plan as far as its stages let it come: a stage that fails is the last, and behind the third
there is the run of the commands and nothing else. -/
inductive Staged {σ : Type} [World σ] (plan : Plan) (settings : Settings) (patience : Nat) (w : σ) :
    Played (Except Failure Summary) σ → Prop where
  | unprepared {e : PreparationError} {w₀ w₁ : σ}
      (noted : World.answer (.note plan.note) w = ((), w₀))
      (prepare : World.answer (.prepare settings.serial.port) w₀ = (.error e, w₁)) :
      Staged plan settings patience w
        ⟨some (.error (.preparation e)),
          [⟨.note plan.note, ()⟩, ⟨.prepare settings.serial.port, .error e⟩], w₁⟩
  | unconnected {e : LinkError} {w₀ w₁ w₂ : σ}
      (noted : World.answer (.note plan.note) w = ((), w₀))
      (prepare : World.answer (.prepare settings.serial.port) w₀ = (.ok (), w₁))
      (connect : World.answer (.connect settings.serial settings.logging.verbose) w₁ =
        (.error e, w₂)) :
      Staged plan settings patience w
        ⟨some (.error (.link e)),
          [⟨.note plan.note, ()⟩, ⟨.prepare settings.serial.port, .ok ()⟩,
            ⟨.connect settings.serial settings.logging.verbose, .error e⟩], w₂⟩
  | uncleared {line : Line} {e : PortError} {w₀ w₁ w₂ w₃ : σ}
      (noted : World.answer (.note plan.note) w = ((), w₀))
      (prepare : World.answer (.prepare settings.serial.port) w₀ = (.ok (), w₁))
      (connect : World.answer (.connect settings.serial settings.logging.verbose) w₁ =
        (.ok line, w₂))
      (clear : World.answer .clear w₂ = (.error e, w₃)) :
      Staged plan settings patience w
        ⟨some (.error (.link (.readFailed line.port e))),
          [⟨.note plan.note, ()⟩, ⟨.prepare settings.serial.port, .ok ()⟩,
            ⟨.connect settings.serial settings.logging.verbose, .ok line⟩, ⟨.clear, .error e⟩], w₃⟩
  | cleared {line : Line} {w₀ w₁ w₂ w₃ : σ} {ran : Played (Except Interruption Report) σ}
      (noted : World.answer (.note plan.note) w = ((), w₀))
      (prepare : World.answer (.prepare settings.serial.port) w₀ = (.ok (), w₁))
      (connect : World.answer (.connect settings.serial settings.logging.verbose) w₁ =
        (.ok line, w₂))
      (clear : World.answer .clear w₂ = (.ok (), w₃))
      (run : ran =
        (Sequence.run line settings.pacing.options patience plan.commands).run.play w₃)
      (only : ∀ e ∈ ran.exchanges, e.question.onLine = true) :
      Staged plan settings patience w
        ⟨ran.result.map (plan.concludes line), plan.opening settings line ++ ran.exchanges,
          ran.world⟩

section

variable {σ : Type} [World σ]

/-- What follows once the link is open. -/
def send (plan : Plan) (settings : Settings) (patience : Nat) (line : Line) :
    Talk Failure Summary := do
  line.discard.adapt Failure.link
  let report ← (Sequence.run line settings.pacing.options patience plan.commands).adapt
    Failure.interrupted
  pure ⟨plan.selection.family.name, plan.selection.label, line.port, report⟩

theorem run_eq (plan : Plan) (settings : Settings) (patience : Nat) :
    plan.run settings patience = (do
      Dialogue.perform (.note plan.note)
      match ← Dialogue.perform (.prepare settings.serial.port) with
      | .error e => throw (.preparation e)
      | .ok () =>
        match ← Dialogue.perform (.connect settings.serial settings.logging.verbose) with
        | .error e => throw (.link e)
        | .ok line => plan.send settings patience line) := rfl

theorem play_send_uncleared {plan : Plan} {settings : Settings} {patience : Nat} {line : Line}
    {e : PortError} {w w' : σ} (clear : World.answer .clear w = (.error e, w')) :
    (plan.send settings patience line).run.play w =
      ⟨some (.error (.link (.readFailed line.port e))), [⟨.clear, .error e⟩], w'⟩ := by
  unfold send Line.discard
  rw [Talk.play_bind, Talk.play_adapt, Talk.play_ask clear]
  rfl

theorem play_send_cleared {plan : Plan} {settings : Settings} {patience : Nat} {line : Line}
    {w w' : σ} (clear : World.answer .clear w = (.ok (), w')) :
    (plan.send settings patience line).run.play w =
      let ran := (Sequence.run line settings.pacing.options patience plan.commands).run.play w'
      ⟨ran.result.map (plan.concludes line), ⟨.clear, .ok ()⟩ :: ran.exchanges, ran.world⟩ := by
  have hdiscard : (line.discard.adapt Failure.link).run.play w =
      ⟨some (.ok ()), [⟨.clear, .ok ()⟩], w'⟩ := by
    unfold Line.discard
    rw [Talk.play_adapt, Talk.play_ask clear]
    rfl
  rw [send, Talk.play_bind, hdiscard, Played.andThen]
  dsimp only
  rw [Talk.play_bind, Talk.play_adapt]
  generalize (Sequence.run line settings.pacing.options patience plan.commands).run.play w' = ran
  obtain ⟨result, es, w''⟩ := ran
  rcases result with _ | i | report
  · rfl
  all_goals
    change (⟨_, ⟨.clear, .ok ()⟩ :: ((es ++ []) ++ []), w''⟩ : Played _ σ) = _
    rw [List.append_nil, List.append_nil]
    rfl

/-- A plan comes through its stages in order. -/
theorem staged (plan : Plan) (settings : Settings) (patience : Nat) (w : σ) :
    Staged plan settings patience w ((plan.run settings patience).run.play w) := by
  obtain ⟨w₀, noted⟩ : ∃ w₀, World.answer (.note plan.note) w = ((), w₀) := ⟨_, rfl⟩
  rw [run_eq, Talk.play_ask noted]
  match prepare : World.answer (.prepare settings.serial.port) w₀ with
  | (.error e, w₁) =>
    rw [Talk.play_ask prepare]
    exact .unprepared noted prepare
  | (.ok (), w₁) =>
    rw [Talk.play_ask prepare]
    match connect : World.answer (.connect settings.serial settings.logging.verbose) w₁ with
    | (.error e, w₂) =>
      rw [Talk.play_ask connect]
      exact .unconnected noted prepare connect
    | (.ok line, w₂) =>
      rw [Talk.play_ask connect]
      match clear : World.answer .clear w₂ with
      | (.error e, w₃) =>
        simp only [play_send_uncleared clear]
        exact .uncleared noted prepare connect clear
      | (.ok (), w₃) =>
        simp only [play_send_cleared clear]
        exact .cleared noted prepare connect clear rfl
          ((Sequence.run_onLine line _ patience plan.commands).play w₃)

end

end Plan

/-- Worlds that only the port tells apart, and nothing any more once the port is cleared. -/
structure Stale {σ : Type} [World σ] (alike : σ → σ → Prop) : Prop where
  refl : ∀ w, alike w w
  kept : ∀ q w w', q.call? = none → alike w w' →
    (World.answer q w).1 = (World.answer q w').1 ∧
      alike (World.answer q w).2 (World.answer q w').2
  cleared : ∀ w w', alike w w' →
    (World.answer .clear w).1 = (World.answer .clear w').1 ∧
      alike (World.answer .clear w).2 (World.answer .clear w').2 ∧
      ((World.answer .clear w).1 = .ok () →
        (World.answer .clear w).2 = (World.answer .clear w').2)

/-- No difference shows, and what is left is alike. -/
structure Played.Alike {α σ : Type} (alike : σ → σ → Prop) (p p' : Played α σ) : Prop where
  result : p.result = p'.result
  exchanges : p.exchanges = p'.exchanges
  world : alike p.world p'.world

section

variable {σ : Type} [World σ] {alike : σ → σ → Prop}

theorem Stale.ask {ε α : Type} (stale : Stale alike) {q : Ask} {f : q.Answer → Talk ε α} {w w' : σ}
    (hq : q.call? = none) (h : alike w w')
    (rest : ∀ answer v v', alike v v' →
      Played.Alike alike ((f answer).run.play v) ((f answer).run.play v')) :
    Played.Alike alike ((liftM (Dialogue.perform q) >>= f : Talk ε α).run.play w)
      ((liftM (Dialogue.perform q) >>= f : Talk ε α).run.play w') := by
  obtain ⟨hanswer, halike⟩ := stale.kept q w w' hq h
  obtain ⟨hresult, hexchanges, hworld⟩ := rest (World.answer q w).1 _ _ halike
  have hsame : World.answer q w' = ((World.answer q w).1, (World.answer q w').2) :=
    Prod.ext hanswer.symm rfl
  rw [Talk.play_ask rfl, Talk.play_ask hsame]
  exact ⟨hresult, congrArg (List.cons _) hexchanges, hworld⟩

theorem Stale.send (stale : Stale alike) (plan : Plan) (settings : Settings) (patience : Nat)
    (line : Line) {w w' : σ} (h : alike w w') :
    Played.Alike alike ((plan.send settings patience line).run.play w)
      ((plan.send settings patience line).run.play w') := by
  obtain ⟨hanswer, halike, hsame⟩ := stale.cleared w w' h
  match hw : World.answer .clear w, hw' : World.answer .clear w' with
  | (.error e, v), (answer, v') =>
    rw [hw, hw'] at hanswer halike
    cases hanswer
    rw [Plan.play_send_uncleared hw, Plan.play_send_uncleared hw']
    exact ⟨rfl, rfl, halike⟩
  | (.ok (), v), (answer, v') =>
    rw [hw, hw'] at hanswer hsame
    cases hanswer
    cases hsame rfl
    rw [Plan.play_send_cleared hw, Plan.play_send_cleared hw']
    exact ⟨rfl, rfl, stale.refl _⟩

/-- What only the port tells apart before it is cleared makes no difference to a plan. -/
theorem Stale.run (stale : Stale alike) (plan : Plan) (settings : Settings) (patience : Nat)
    {w w' : σ} (h : alike w w') :
    Played.Alike alike ((plan.run settings patience).run.play w)
      ((plan.run settings patience).run.play w') := by
  rw [Plan.run_eq]
  refine stale.ask rfl h fun _ v v' h => stale.ask rfl h fun prepared v v' h => ?_
  match prepared with
  | .error e => exact ⟨rfl, rfl, h⟩
  | .ok () =>
    refine stale.ask rfl h fun connected v v' h => ?_
    match connected with
    | .error e => exact ⟨rfl, rfl, h⟩
    | .ok line => exact stale.send plan settings patience line h

end

/-- The same bench with other bytes waiting at its modem, and another line half received. -/
def Bench.found (waiting held : Bytes) (b : Bench) : Bench :=
  { b with rig.modem.waiting := waiting, rig.modem.held := held }

/-- Benches that differ in nothing else. -/
def Bench.Found (b b' : Bench) : Prop := ∃ waiting held, b' = b.found waiting held

theorem Bench.stale : Stale Bench.Found where
  refl b := ⟨b.rig.modem.waiting, b.rig.modem.held, rfl⟩
  kept q b b' hq := by
    rintro ⟨waiting, held, rfl⟩
    cases q with
    | write | flush | read | clear => cases hq
    | attach serial =>
      change (b.attach serial).1 = ((b.found waiting held).attach serial).1 ∧
        Bench.Found (b.attach serial).2 ((b.found waiting held).attach serial).2
      unfold Bench.attach Bench.found
      dsimp only
      cases Bench.attachFault? serial.port b.host.disk with
      | none | some e => exact ⟨rfl, waiting, held, rfl⟩
    | _ => exact ⟨rfl, waiting, held, rfl⟩
  cleared b b' := by
    rintro ⟨waiting, held, rfl⟩
    change (b.onRig b.rig.clear).1 =
        ((b.found waiting held).onRig (b.found waiting held).rig.clear).1 ∧
      Bench.Found (b.onRig b.rig.clear).2
        ((b.found waiting held).onRig (b.found waiting held).rig.clear).2 ∧
      ((b.onRig b.rig.clear).1 = .ok () → (b.onRig b.rig.clear).2 =
        ((b.found waiting held).onRig (b.found waiting held).rig.clear).2)
    unfold Bench.onRig Rig.clear Bench.found
    dsimp only
    generalize b.rig.faults.lookup (.clear, b.rig.clears + 1) = fault
    match fault with
    | some (.error e) => exact ⟨rfl, ⟨waiting, held, rfl⟩, nofun⟩
    | some .nothing | none => exact ⟨rfl, ⟨[], [], rfl⟩, fun _ => rfl⟩

namespace Plan

/-- Whatever the host, the link and the port do, a plan comes through its stages in order, each at
most once, and behind the last there is nothing but the run of its commands. So what was waiting at
the modem, and half a line that it had received, make no difference. -/
theorem run_staged {σ : Type} [World σ] (plan : Plan) (settings : Settings) (patience : Nat) :
    (∀ w : σ, Staged plan settings patience w ((plan.run settings patience).run.play w)) ∧
    (∀ (alike : σ → σ → Prop) (w w' : σ), Stale alike → alike w w' →
      Played.Alike alike ((plan.run settings patience).run.play w)
        ((plan.run settings patience).run.play w')) ∧
    ∀ (bench : Bench) (waiting held : Bytes),
      let played := (plan.run settings patience).run.play bench
      let played' := (plan.run settings patience).run.play (bench.found waiting held)
      played.result = played'.result ∧ played.exchanges = played'.exchanges ∧
        played.world.rig.modem.lines = played'.world.rig.modem.lines ∧
        played.world.rig.sleeps = played'.world.rig.sleeps := by
  refine ⟨staged plan settings patience, ?_, ?_⟩
  · exact fun alike w w' stale h => stale.run plan settings patience h
  · intro bench waiting held played played'
    obtain ⟨hresult, hexchanges, waiting', held', hworld⟩ :=
      Bench.stale.run plan settings patience (w := bench) ⟨waiting, held, rfl⟩
    refine ⟨hresult, hexchanges, ?_, ?_⟩
    · exact (congrArg (·.rig.modem.lines) hworld).symm
    · exact (congrArg (·.rig.sleeps) hworld).symm

/-- A refusal that waits at the modem, and half a line, do not keep the plan from succeeding. -/
theorem stale_run_staged :
    let bench : Bench := { rig.modem.script := [⟨Verdict.successToken, 0⟩] }
    let stale := bench.found Verdict.failureToken [0x54, 0x41]
    let plan : Plan := ⟨.one .app 0 (by decide), [⟨"AT"⟩]⟩
    let settings : Settings := { pacing := { responseTimeout := 0 } }
    let report : Report := ⟨.completed 1, 1, [⟨⟨"AT"⟩, .success, 1, 0, "OK\r\n"⟩]⟩
    Stale Bench.Found ∧ Bench.Found bench stale ∧
      ((plan.run settings 3).run.play stale).result =
        some (.ok ⟨"SAMPLE_APP_TEST", "softap", "/dev/ttyAMA0", report⟩) := by
  intro bench stale plan settings report
  have hfound : Bench.Found bench stale := ⟨_, _, rfl⟩
  have halike := (run_staged plan settings 3).2.1 Bench.Found bench stale Bench.stale hfound
  refine ⟨Bench.stale, hfound, halike.result.symm.trans ?_⟩
  cbv

end Plan

end ModemBench
