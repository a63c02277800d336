import Mathlib
import ModemBench.Proofs.Clock
import ModemBench.Proofs.Encoding
import ModemBench.Proofs.Observation
import ModemBench.Proofs.Traffic
import ModemBench.Proofs.WireTraffic
import ModemBench.Sequence.Run
/-!
The calls that a run may make. Under a deadline every wait has its number of reads, because each
read takes time; a line has no more writes than bytes, and a command no more transmissions than
the policy allows. So a run comes to its end, whatever the port does; and it comes to a result if
the clock can tell the deadlines.
-/

namespace ModemBench

/-- How many calls of that kind there are. -/
def calls (call : PortCall) (es : List Exchange) : Nat :=
  es.countP fun e => e.question.call? = some call

/-- So many calls of each kind. -/
def tally (writes flushes reads clears : Nat) : PortCall → Nat
  | .write => writes
  | .flush => flushes
  | .read => reads
  | .clear => clears

/-- The calls that a question is. -/
def Ask.price : Ask → PortCall → Nat
  | write _ => tally 1 0 0 0
  | flush => tally 0 1 0 0
  | read _ => tally 0 0 1 0
  | clear => tally 0 0 0 1
  | _ => 0

theorem Ask.price_apply (q : Ask) (call : PortCall) :
    q.price call = if q.call? = some call then 1 else 0 := by
  cases q <;> cases call <;> rfl

/-- A time was wanted that the clock could not tell. -/
def Exchange.refuses : Exchange → Bool
  | ⟨.tellable _, possible⟩ => !possible
  | _ => false

theorem any_refuses {es : List Exchange} :
    es.any Exchange.refuses = true ↔ ∃ time, ⟨.tellable time, false⟩ ∈ es := by
  rw [List.any_eq_true]
  constructor
  · rintro ⟨⟨q, answer⟩, hmem, hrefuses⟩
    cases q with
    | tellable time =>
      obtain rfl : answer = false := by simpa [Exchange.refuses] using hrefuses
      exact ⟨time, hmem⟩
    | _ => cases hrefuses
  · rintro ⟨time, hmem⟩
    exact ⟨_, hmem, rfl⟩

/-- What a run has spent: its calls of each kind, and whether a time was refused to it. -/
structure Account where
  calls : PortCall → Nat
  refused : Bool

section

variable {σ : Type} [World σ]

/-- The account behind one more exchange. -/
def charge (k : Account) (e : Exchange) (_ : σ) : Account :=
  ⟨k.calls + e.question.price, k.refused || e.refuses⟩

theorem charged (es : List Exchange) (w : σ) (k : Account) :
    (es.foldl (observe charge) (w, k)).2 =
      ⟨k.calls + (calls · es), k.refused || es.any Exchange.refuses⟩ := by
  induction es generalizing w k with
  | nil => simp [calls, Pi.add_def]
  | cons e es ih =>
    change (es.foldl (observe charge) (_, charge k e _)).2 = _
    rw [ih, charge, List.any_cons, Bool.or_assoc]
    congr 1
    funext call
    simp only [Pi.add_apply, calls, List.countP_cons, Ask.price_apply, decide_eq_true_eq]
    omega

/-- Played in this world, the talk comes to its end with no more calls than these, unless it is
halted because a time is refused; and if it comes to a value, to such a one. -/
def Within {ε α : Type} (x : Talk ε α) (w : σ) (most : PortCall → Nat)
    (value : α → σ → Prop) : Prop :=
  ∀ spent, Observed charge (fun _ _ _ => True) x w ⟨spent, false⟩
    ⟨fun a w' k => (k.calls ≤ spent + most ∧ k.refused = false) ∧ value a w',
      fun _ _ k => k.calls ≤ spent + most ∧ k.refused = false,
      fun _ k => k.calls ≤ spent + most ∧ k.refused = true⟩

namespace Within

variable {ε ε' α β : Type} {x : Talk ε α} {f : α → Talk ε β} {w : σ} {n m : PortCall → Nat}
  {V : α → σ → Prop} {Q : β → σ → Prop}

theorem done {a : α} (h : V a w) : Within (pure a : Talk ε α) w n V :=
  fun _ => .done ⟨⟨le_self_add, rfl⟩, h⟩

theorem broken {e : ε} : Within (throw e : Talk ε α) w n V := fun _ => .broken ⟨le_self_add, rfl⟩

theorem bind (h : Within x w n V) (rest : ∀ a w', V a w' → Within (f a) w' m Q) :
    Within (x >>= f) w (n + m) Q := by
  intro spent
  have hmore : ∀ {k k' : PortCall → Nat}, k ≤ spent + n → k' ≤ k + m → k' ≤ spent + (n + m) := by
    intro k k' hk hk'
    calc k' ≤ k + m := hk'
      _ ≤ spent + n + m := by gcongr
      _ = spent + (n + m) := add_assoc _ _ _
  refine (h spent).bind ?_ (fun _ _ _ hk => hk.imp_left (hmore · le_self_add))
    fun _ _ hk => hk.imp_left (hmore · le_self_add)
  rintro a w' ⟨k, refused⟩ ⟨⟨hk, rfl⟩, ha⟩
  refine (rest a w' ha k).mono ?_ (fun _ _ _ hk' => hk'.imp_left (hmore hk))
    fun _ _ hk' => hk'.imp_left (hmore hk)
  exact fun b w'' k' hk' => hk'.imp_left fun hk' => hk'.imp_left (hmore hk)

theorem mono {V' : α → σ → Prop} (h : Within x w n V) (le : n ≤ m)
    (value : ∀ a w', V a w' → V' a w') : Within x w m V' := by
  intro spent
  have hmore : ∀ {k : PortCall → Nat}, k ≤ spent + n → k ≤ spent + m :=
    fun hk => hk.trans (by gcongr)
  refine (h spent).mono ?_ (fun _ _ _ hk => hk.imp_left hmore) fun _ _ hk => hk.imp_left hmore
  exact fun a w' k hk => ⟨hk.1.imp_left hmore, value a w' hk.2⟩

theorem perform {q : Ask} {V : q.Answer → σ → Prop}
    (h : ∀ answer w', World.answer q w = (answer, w') →
      Exchange.refuses ⟨q, answer⟩ = false ∧ V answer w') :
    Within (liftM (Dialogue.perform q) : Talk ε q.Answer) w q.price V := by
  refine fun _ => .perform fun answer w' hw => ?_
  obtain ⟨htold, hv⟩ := h answer w' hw
  exact ⟨trivial, ⟨le_rfl, htold⟩, hv⟩

theorem ask {q : Ask} {f : q.Answer → Talk ε β}
    (h : ∀ answer w', World.answer q w = (answer, w') →
      Exchange.refuses ⟨q, answer⟩ = false ∧ Within (f answer) w' m Q) :
    Within (liftM (Dialogue.perform q) >>= f) w (q.price + m) Q :=
  (perform (V := fun answer w' => Within (f answer) w' m Q) h).bind fun _ _ => id

/-- A question that is no call is free. -/
theorem free {q : Ask} {f : q.Answer → Talk ε β} (hq : q.call? = none)
    (h : ∀ answer w', World.answer q w = (answer, w') →
      Exchange.refuses ⟨q, answer⟩ = false ∧ Within (f answer) w' m Q) :
    Within (liftM (Dialogue.perform q) >>= f) w m Q := by
  refine (ask h).mono ?_ fun _ _ => id
  intro call
  simp [Ask.price_apply, hq]

/-- If the clock cannot tell a time, nothing more is called. -/
theorem tellable {moment : Nat} {f : Bool → Talk ε β}
    (told : ∀ w', World.answer (.tellable moment) w = (true, w') → Within (f true) w' m Q)
    (refused : f false = ExceptT.lift (.halted .overflow)) :
    Within (liftM (Dialogue.perform (.tellable moment)) >>= f) w m Q := by
  intro spent
  refine .ask fun possible w' hw => ⟨trivial, ?_⟩
  cases possible with
  | true => exact told w' hw spent
  | false =>
    rw [refused]
    exact ⟨.nil, le_self_add, rfl⟩

/-- A note is free, taken or not. -/
theorem noted {time : σ → Nat} (clock : Clock time) {p : Bool} {entry : Note} {y : Talk ε β}
    (h : ∀ w', time w ≤ time w' → Within y w' m Q) :
    Within (if p = true then do
      let _ ← (liftM (Dialogue.perform (.note entry)) : Talk ε Unit); y else y) w m Q := by
  split
  · exact free rfl fun _ w' hw => ⟨rfl, h w' (clock.answered hw)⟩
  · exact h w (Nat.le_refl _)

theorem adapt (h : Within x w n V) (g : ε → ε') : Within (x.adapt g) w n V :=
  fun spent => (h spent).adapt (fun _ _ _ h => h) (fun _ _ _ h => h) fun _ _ h => h

/-- There is no result just where a time was refused, and no more calls in any case. -/
theorem ends (h : Within x w n V) :
    let played := x.run.play w
    (played.result = none ↔ ∃ moment, Exchange.mk (.tellable moment) false ∈ played.exchanges) ∧
      ∀ call, calls call played.exchanges ≤ n call := by
  intro played
  have hends := (h 0).ends
  rw [charged, zero_add, zero_add, Bool.false_or] at hends
  change Ends.Holds _ played.result played.world
    (Account.mk (calls · played.exchanges) (played.exchanges.any Exchange.refuses)) at hends
  rw [← any_refuses]
  match hresult : played.result with
  | none =>
    rw [hresult] at hends
    exact ⟨iff_of_true rfl hends.2, hends.1⟩
  | some (.ok a) =>
    rw [hresult] at hends
    exact ⟨iff_of_false nofun (Bool.eq_false_iff.mp hends.1.2), hends.1.1⟩
  | some (.error e) =>
    rw [hresult] at hends
    exact ⟨iff_of_false nofun (Bool.eq_false_iff.mp hends.2), hends.1⟩

end Within

end

namespace Sequence

section

variable {σ : Type} [World σ] {time : σ → Nat} {step : Nat}

variable {options : RunOptions} {patience duration : Nat}

end

end Sequence

/-- A desk on which no read is shorter than this. -/
abbrev SlowDesk (step : Nat) := { d : Desk // ∀ n, step ≤ d.lasts .read n }

namespace SlowDesk

instance {step : Nat} : World (SlowDesk step) where
  answer q d :=
    ((World.answer q d.1).1, ⟨(World.answer q d.1).2, by cases q <;> exact d.2⟩)

theorem clock (step : Nat) : Clock fun d : SlowDesk step => d.1.now where
  tells d := Desk.clock.tells d.1
  onward q d := Desk.clock.onward q d.1

end SlowDesk

namespace Sequence

end Sequence

/-- A world of which the clock can tell only the times before the limit. -/
structure Limited (limit : Nat) (σ : Type) where
  world : σ

namespace Limited

variable {limit : Nat} {σ : Type} [World σ] {time : σ → Nat}

instance : World (Limited limit σ) where
  answer
    | .tellable moment, w => (decide (moment < limit), w)
    | q, w => ((World.answer q w.world).1, ⟨(World.answer q w.world).2⟩)

theorem clock (h : Clock time) : Clock fun w : Limited limit σ => time w.world where
  tells w := h.tells w.world
  onward q w := by
    cases q with
    | tellable => exact Nat.le_refl _
    | _ => exact h.onward _ w.world

end Limited

namespace Sequence

end Sequence

end ModemBench
