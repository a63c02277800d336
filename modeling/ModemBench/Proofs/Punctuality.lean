import Mathlib
import ModemBench.Bench.World
import ModemBench.Proofs.Clock
import ModemBench.Proofs.Observation
import ModemBench.Proofs.Transmission
/-!
Waits in time. A wait begins when its line is out and is over with the first read that brings a
terminal token or comes to the deadline, and a record tells how its last wait ended and how long
the command took.
-/

namespace ModemBench

namespace Sequence

/-- What someone with a clock knows of a run. Times are in microseconds. -/
structure Watch where
  /-- When the first transmission of the command began. -/
  begun : Nat := 0
  /-- When the last line was out, and the wait for its reply began. -/
  start : Nat := 0
  /-- The reads of that wait, what they gave, and when the last was over. -/
  reads : Nat := 0
  heard : Bytes := []
  last : Nat := 0
  /-- The records so far. -/
  told : List Record := []

namespace Watch

/-- The beginning of a wait, with nothing heard. -/
def flushed (now : Nat) (k : Watch) : Watch :=
  { k with start := now, reads := 0, heard := [], last := now }

def read (now : Nat) (bytes : Bytes) (k : Watch) : Watch :=
  { k with reads := k.reads + 1, heard := k.heard ++ bytes, last := now }

/-- The watch behind one more exchange, in the world it left. -/
def see {σ : Type} (time : σ → Nat) (k : Watch) (e : Exchange) (w : σ) : Watch :=
  match e with
  | ⟨.note (.sending _ 1), _⟩ => { k with begun := time w }
  | ⟨.flush, .ok ()⟩ => k.flushed (time w)
  | ⟨.read cap, answer⟩ => k.read (time w) (Exchange.given ⟨.read cap, answer⟩)
  | ⟨.note (.settled r), _⟩ => { k with told := k.told ++ [r] }
  | _ => k

/-- The wait has read something, and either there is a terminal token or its time has come. -/
def Over (deadline : Option Nat) (k : Watch) : Prop :=
  k.reads ≠ 0 ∧ (Verdict.of? k.heard ≠ none ∨
    ∃ duration, deadline = some duration ∧ k.start + duration * 1000 ≤ k.last)

end Watch

/-- What a record says of the last wait of its command, which is over, and of the time since the
first transmission. Beyond 2^64 milliseconds the time is cut. -/
structure Timely (deadline : Option Nat) (k : Watch) (r : Record) : Prop where
  closed : k.Over deadline
  ending : r.ending = verdictOn k.heard
  bounded : r.ending = .timedOut → deadline ≠ none
  response : r.response = Text.decode k.heard
  elapsed : r.elapsed = Sequence.elapsed k.begun k.last
  spent : ∀ duration, deadline = some duration → (k.last - k.begun) / 1000 < 2 ^ 64 →
    (r.ending = .timedOut → r.attempts * duration ≤ r.elapsed.toNat) ∧
      (r.attempts = 2 → duration ≤ r.elapsed.toNat)

section

variable {σ : Type} [World σ] {time : σ → Nat} {deadline : Option Nat}

/-- A wait that is over is not read on, and no read ends behind its deadline by more than the read
takes. Nobody sends again or makes a record before the wait is over. -/
def Punctual (time : σ → Nat) (deadline : Option Nat) (w : σ) (k : Watch) (e : Exchange) : Prop :=
  match e.question with
  | .read _ => ¬ k.Over deadline ∧ ∀ most duration, deadline = some duration →
      time (World.answer e.question w).2 ≤ time w + most →
      time (World.answer e.question w).2 ≤ k.start + duration * 1000 + most
  | .note (.retrying _) => k.Over deadline ∧ Verdict.of? k.heard = none
  | .note (.settled r) => Timely deadline k r
  | _ => True

/-- Played in this world under this watch, the talk is punctual. It comes to such a value, or
breaks off without another record, or is halted while no wait is over. -/
def Watched {ε α : Type} (time : σ → Nat) (deadline : Option Nat) (x : Talk ε α) (w : σ)
    (k : Watch) (told : List Record) (value : α → σ → Watch → Prop) : Prop :=
  Observed (Watch.see time) (Punctual time deadline) x w k
    ⟨value, fun _ _ k' => k'.told = told, fun _ k' => ¬ k'.Over deadline⟩

namespace Watched

variable {ε α β : Type} {x : Talk ε α} {f : α → Talk ε β} {w : σ} {k : Watch}
  {told : List Record} {V : α → σ → Watch → Prop} {Q : β → σ → Watch → Prop}

theorem bind (h : Watched time deadline x w k told V)
    (value : ∀ a w' k', V a w' k' → Watched time deadline (f a) w' k' told Q) :
    Watched time deadline (x >>= f) w k told Q :=
  Observed.bind h value (fun _ _ _ h => h) fun _ _ h => h

theorem mono {V' : α → σ → Watch → Prop} (h : Watched time deadline x w k told V)
    (value : ∀ a w' k', V a w' k' → V' a w' k') : Watched time deadline x w k told V' :=
  Observed.mono h value (fun _ _ _ h => h) fun _ _ h => h

/-- A note that depends on the line's verbosity takes no time and is not watched. -/
theorem noted (clock : PortClock time) {p : Bool} {entry : Note} {y : Talk ε β}
    (unwatched : ∀ w', Punctual time deadline w k ⟨.note entry, ()⟩ ∧
      Watch.see time k ⟨.note entry, ()⟩ w' = k)
    (h : ∀ w', time w' = time w → Watched time deadline y w' k told Q) :
    Watched time deadline (if p = true then do
      let _ ← (liftM (Dialogue.perform (.note entry)) : Talk ε Unit); y else y) w k told Q := by
  split
  · refine Observed.ask fun _ w' hw => ⟨(unwatched w').1, ?_⟩
    rw [(unwatched w').2]
    exact h w' (clock.written hw)
  · exact h w rfl

end Watched

theorem push_watched (clock : PortClock time) (line : Line) (total written : Nat) (left : Bytes)
    (w : σ) (k : Watch) :
    Watched time deadline (line.push total written left) w k k.told fun _ w' k' =>
      k' = k ∧ time w ≤ time w' := by
  fun_induction Line.push line total written left generalizing w with
  | case1 written => exact .done ⟨rfl, Nat.le_refl _⟩
  | case2 written left more ih =>
    refine .ask fun answer w' hw => ⟨trivial, ?_⟩
    rcases answer with e | _ | n
    · exact .broken rfl
    · exact .broken rfl
    · refine (ih n w').mono ?_
      rintro total w'' k' ⟨rfl, honward⟩
      exact ⟨rfl, Nat.le_trans (clock.answered hw) honward⟩

theorem send_watched (clock : PortClock time) (line : Line) (c : Command) (w : σ) (k : Watch) :
    Watched time deadline (line.send c) w k k.told fun _ w' k' =>
      k' = k.flushed (time w') ∧ time w ≤ time w' := by
  refine .noted clock (fun _ => ⟨trivial, rfl⟩) fun w₁ hnoted => ?_
  refine (push_watched clock line _ 0 c.wire w₁ k).bind ?_
  rintro written w₂ k ⟨rfl, hpushed⟩
  refine .ask fun answer w₃ hflush => ⟨trivial, ?_⟩
  have honward := clock.answered hflush
  match answer with
  | .error e => exact .broken rfl
  | .ok () =>
    refine .perform fun _ w₄ hsent => ⟨trivial, ?_⟩
    have hsame := clock.written hsent
    refine ⟨?_, by omega⟩
    rw [hsame]
    rfl

/-- A read of a wait that is not over, and not behind its deadline. -/
theorem receive_watched (clock : PortClock time) (line : Line) {w : σ} {k : Watch}
    (early : ¬ k.Over deadline)
    (within : ∀ duration, deadline = some duration → time w ≤ k.start + duration * 1000) :
    Watched time deadline line.receive w k k.told fun chunk w' k' =>
      k' = k.read (time w') chunk ∧ time w ≤ time w' := by
  refine .ask fun answer w₁ hread => ⟨⟨early, ?_⟩, ?_⟩
  · intro most duration hduration hmost
    have := within duration hduration
    omega
  · have honward := clock.answered hread
    match answer with
    | .ok chunk =>
      refine Watched.noted clock (fun _ => ⟨trivial, rfl⟩) fun w₂ hsame => ?_
      refine .done ⟨?_, by omega⟩
      rw [hsame]
      rfl
    | .error e =>
      change Watched time deadline (if e.isReadTimeout = true then pure [] else _) w₁
        (k.read (time w₁) []) _ _
      split
      · exact .done ⟨rfl, honward⟩
      · exact .broken rfl

theorem overdue_watched {ε : Type} (clock : PortClock time) (due : Option Nat) (w : σ) (k : Watch)
    (told : List Record) :
    Watched time deadline (liftM (overdue due) : Talk ε Bool) w k told fun late w' k' =>
      k' = k ∧ time w' = time w ∧
        (late = true ↔ ∃ moment, due = some moment ∧ moment ≤ time w) := by
  cases due with
  | none => exact .done ⟨rfl, rfl, by simp⟩
  | some moment =>
    refine ⟨Throughout.cons_iff.mpr ⟨trivial, .nil⟩, rfl, clock.looked w, ?_⟩
    change decide (moment ≤ (World.answer .clock w).1) = true ↔ _
    simp [clock.tells w]

theorem dueIn_watched {ε : Type} (clock : PortClock time) {w : σ} {k : Watch}
    (early : ¬ k.Over deadline) (told : List Record) :
    Watched time deadline (liftM (dueIn deadline) : Talk ε (Option Nat)) w k told fun due w' k' =>
      k' = k ∧ time w' = time w ∧ due = deadline.map (time w + · * 1000) := by
  cases deadline with
  | none => exact .done ⟨rfl, rfl, rfl⟩
  | some duration =>
    refine Observed.ask fun now w₁ hlook => ⟨trivial, ?_⟩
    obtain rfl := clock.told hlook
    refine Observed.ask fun possible w₂ hjudge => ⟨trivial, ?_⟩
    have hsame := (clock.judging hjudge).trans (clock.unmoved hlook)
    cases possible with
    | true => exact .done ⟨rfl, hsame, rfl⟩
    | false => exact ⟨.nil, early⟩

/-- A wait that goes on, `received` so far, as it is before each of its reads. -/
structure Waiting (time : σ → Nat) (deadline : Option Nat) (received : Bytes) (w : σ) (k : Watch) :
    Prop where
  heard : k.heard = received
  now : time w = k.last
  begins : k.start ≤ k.last
  fresh : k.reads = 0 → k.last = k.start
  early : ¬ k.Over deadline

/-- A wait that is over, and what came of it. -/
structure Closed (time : σ → Nat) (deadline : Option Nat) (ended : Ending × Bytes) (w : σ)
    (k : Watch) : Prop where
  closed : k.Over deadline
  ending : ended.1 = verdictOn k.heard
  response : ended.2 = k.heard
  now : time w = k.last
  begins : k.start ≤ k.last

/-- What reads do not change. -/
structure Watch.SameWait (k k' : Watch) : Prop where
  begun : k'.begun = k.begun
  start : k'.start = k.start
  told : k'.told = k.told

omit [World σ] in
/-- Until its first read a wait stands at its beginning, and behind it before the deadline. -/
theorem Waiting.within {received : Bytes} {w : σ} {k : Watch}
    (h : Waiting time deadline received w k) (duration : Nat) (hd : deadline = some duration) :
    time w ≤ k.start + duration * 1000 := by
  obtain ⟨-, hnow, -, hfresh, hearly⟩ := h
  by_cases hreads : k.reads = 0
  · have := hfresh hreads
    omega
  · have hsoon : ¬ k.start + duration * 1000 ≤ k.last :=
      fun hlate => hearly ⟨hreads, .inr ⟨duration, hd, hlate⟩⟩
    omega

/-- The induction is on the reads that are still allowed. The token is looked for first, so only
a wait without one can be late. -/
theorem gather_watched (clock : PortClock time) (line : Line) {due : Option Nat} {patience : Nat}
    {received : Bytes} {w : σ} {k : Watch} (h : Waiting time deadline received w k)
    (hdue : due = deadline.map (k.start + · * 1000)) :
    Watched time deadline (gather line due patience received) w k k.told fun ended w' k' =>
      Closed time deadline ended w' k' ∧ k.SameWait k' := by
  induction patience generalizing received w k with
  | zero => exact ⟨.nil, h.early⟩
  | succ patience ih =>
    refine (receive_watched clock line h.early h.within).bind ?_
    rintro chunk w₁ k₁ ⟨rfl, honward⟩
    obtain ⟨rfl, hnow, hbegins, -, -⟩ := h
    have hbegins₁ : k.start ≤ time w₁ := by omega
    cases hv : Verdict.of? (k.heard ++ chunk) with
    | some verdict =>
      simp only [hv]
      refine .done ⟨⟨⟨Nat.succ_ne_zero _, .inl ?_⟩, ?_, rfl, rfl, hbegins₁⟩, rfl, rfl, rfl⟩
      · simp [Watch.read, hv]
      · simp [Watch.read, verdictOn, hv]
    | none =>
      simp only [hv]
      refine (overdue_watched clock due w₁ _ k.told).bind ?_
      rintro late w₂ k₂ ⟨rfl, hsame, hlate⟩
      have hover : (k.read (time w₁) chunk).Over deadline ↔ late = true := by
        rw [hlate, hdue]
        simp [Watch.Over, Watch.read, hv]
      cases late with
      | true =>
        refine .done ⟨⟨hover.mpr rfl, ?_, rfl, hsame, hbegins₁⟩, rfl, rfl, rfl⟩
        simp [Watch.read, verdictOn, hv]
      | false =>
        have hwaiting : Waiting time deadline (k.heard ++ chunk) w₂ (k.read (time w₁) chunk) := by
          refine ⟨rfl, hsame, hbegins₁, ?_, ?_⟩
          · exact fun h => absurd h (Nat.succ_ne_zero _)
          · exact fun h => absurd (hover.mp h) (by simp)
        refine (ih hwaiting hdue).mono ?_
        rintro ended w₃ k₃ ⟨hclosed, hwait⟩
        exact ⟨hclosed, hwait.begun, hwait.start, hwait.told⟩

omit [World σ] in
theorem Watch.see_sending (k : Watch) (c : Command) (number : Nat) (answer : Unit) (w : σ) :
    k.see time ⟨.note (.sending c number), answer⟩ w =
      { k with begun := if number = 1 then time w else k.begun } := by
  match number with
  | 0 | 1 | _ + 2 => rfl

theorem attempt_watched (clock : PortClock time) (line : Line) (options : RunOptions)
    (patience : Nat) (c : Command) (number : Nat) (w : σ) (k : Watch) :
    Watched time options.deadline (attempt line options patience c number) w k k.told
      fun ended w' k' => Closed time options.deadline ended w' k' ∧ k'.told = k.told ∧
        time w ≤ k'.start ∧ k'.begun = if number = 1 then time w else k.begun := by
  refine .ask fun _ w₁ hbegun => ⟨trivial, ?_⟩
  rw [Watch.see_sending, clock.written hbegun]
  refine (send_watched clock line c w₁ _).bind ?_
  rintro ⟨⟩ w₂ k₂ ⟨rfl, hsent⟩
  rw [clock.written hbegun] at hsent
  refine Observed.ask fun _ w₃ hwait => ⟨trivial, ?_⟩
  refine (dueIn_watched clock (fun h => h.1 rfl) k.told).bind ?_
  rintro due w₄ k₄ ⟨rfl, hset, rfl⟩
  rw [clock.written hwait] at hset ⊢
  have hwaiting : Waiting time options.deadline [] w₄
      (Watch.flushed (time w₂) { k with begun := if number = 1 then time w else k.begun }) :=
    ⟨rfl, hset, Nat.le_refl _, fun _ => rfl, fun h => h.1 rfl⟩
  refine (gather_watched clock line hwaiting rfl).mono ?_
  rintro ended w' k' ⟨hclosed, hbegun, hstart, htold⟩
  exact ⟨hclosed, htold, hstart ▸ hsent, hbegun⟩

theorem discard_watched (clock : PortClock time) (line : Line) (w : σ) (k : Watch)
    (told : List Record) (htold : k.told = told) :
    Watched time deadline line.discard w k told fun _ w' k' => k' = k ∧ time w ≤ time w' := by
  refine .ask fun answer w' hclear => ⟨trivial, ?_⟩
  match answer with
  | .error e => exact .broken htold
  | .ok () => exact .done ⟨rfl, clock.answered hclear⟩

/-- What the transmissions of a command took before its last wait. -/
structure Spent (deadline : Option Nat) (attempts : Nat) (k : Watch) : Prop where
  begins : k.begun ≤ k.start
  again : attempts = 1 ∨ attempts = 2 ∧ ∀ duration, deadline = some duration →
    k.begun + duration * 1000 ≤ k.start

theorem verdictOn_eq_timedOut {heard : Bytes} :
    verdictOn heard = .timedOut ↔ Verdict.of? heard = none := by
  unfold verdictOn
  cases Verdict.of? heard with
  | none => simp
  | some verdict => cases verdict <;> simp [Verdict.ending]

omit [World σ] in
/-- A wait that ended without a token was not over before its deadline. -/
theorem Closed.late {ended : Ending × Bytes} {w : σ} {k : Watch}
    (h : Closed time deadline ended w k) (timedOut : ended.1 = .timedOut) :
    Verdict.of? k.heard = none ∧
      ∃ duration, deadline = some duration ∧ k.start + duration * 1000 ≤ k.last := by
  have hsilent := verdictOn_eq_timedOut.mp (h.ending.symm.trans timedOut)
  exact ⟨hsilent, h.closed.2.resolve_left fun htoken => htoken hsilent⟩

omit [World σ] in
theorem Closed.timely {c : Command} {attempts : Nat} {ending : Ending} {response : Bytes} {w : σ}
    {k : Watch} (h : Closed time deadline (ending, response) w k)
    (spent : Spent deadline attempts k) :
    Timely deadline k
      ⟨c, ending, attempts, Sequence.elapsed k.begun k.last, Text.decode response⟩ := by
  refine ⟨h.closed, h.ending, ?_, congrArg Text.decode h.response, rfl, ?_⟩
  · intro timedOut
    obtain ⟨-, duration, hduration, -⟩ := h.late timedOut
    simp [hduration]
  · intro duration hduration hsmall
    have helapsed : (Sequence.elapsed k.begun k.last).toNat = (k.last - k.begun) / 1000 := by
      simpa [Sequence.elapsed] using hsmall
    have hbegins := h.begins
    have hbegun := spent.begins
    constructor
    · intro timedOut
      obtain ⟨-, duration', hduration', hlate⟩ := h.late timedOut
      cases hduration.symm.trans hduration'
      rcases spent.again with hattempts | ⟨hattempts, hagain⟩
      · dsimp only
        rw [helapsed, hattempts]
        omega
      · have := hagain duration hduration
        dsimp only
        rw [helapsed, hattempts]
        omega
    · intro hattempts
      obtain ⟨-, hagain⟩ := spent.again.resolve_left (by simp_all)
      have := hagain duration hduration
      dsimp only
      rw [helapsed]
      omega

/-- A second transmission begins behind the deadline of the first. -/
theorem settle_watched (clock : PortClock time) (line : Line) (options : RunOptions)
    (patience : Nat) (c : Command) (w : σ) (k : Watch) :
    Watched time options.deadline (settle line options patience c) w k k.told
      fun (attempts, ended) w' k' => Closed time options.deadline ended w' k' ∧
        k'.told = k.told ∧ k'.begun = time w ∧ Spent options.deadline attempts k' := by
  refine (attempt_watched clock line options patience c 1 w k).bind ?_
  rintro first w₁ k₁ ⟨hclosed, htold, hstart, hbegun⟩
  rw [if_pos rfl] at hbegun
  split
  · next hagain =>
    obtain ⟨hsilent, hlate⟩ := hclosed.late hagain.1
    refine Observed.ask fun _ w₂ hretry => ⟨⟨hclosed.closed, hsilent⟩, ?_⟩
    refine (discard_watched clock line w₂ k₁ k.told htold).bind ?_
    rintro ⟨⟩ w₃ k₃ ⟨rfl, hcleared⟩
    rw [← htold]
    refine (attempt_watched clock line options patience c 2 w₃ k₃).bind ?_
    rintro second w₄ k₄ ⟨hclosed', htold', hstart', hbegun'⟩
    rw [if_neg (by decide)] at hbegun'
    refine .done ⟨hclosed', htold', by rw [hbegun', hbegun], ?_, .inr ⟨rfl, ?_⟩⟩
    · have := clock.written hretry
      have := hclosed.now
      have := hclosed.begins
      omega
    · intro duration hduration
      obtain ⟨duration', hduration', hlate⟩ := hlate
      cases hduration.symm.trans hduration'
      have := clock.written hretry
      have := hclosed.now
      omega
  · exact .done ⟨hclosed, htold, hbegun, hbegun ▸ hstart, .inl rfl⟩

theorem execute_watched (clock : PortClock time) (line : Line) (options : RunOptions)
    (patience : Nat) (c : Command) (w : σ) (k : Watch) :
    Watched time options.deadline (execute line options patience c) w k k.told
      fun r _ k' => k'.told = k.told ++ [r] := by
  refine .ask fun start w₁ hlook => ⟨trivial, ?_⟩
  obtain rfl := clock.told hlook
  have hsame := clock.unmoved hlook
  refine (settle_watched clock line options patience c w₁ k).bind ?_
  rintro ⟨attempts, ending, response⟩ w₂ k₂ ⟨hclosed, htold, hbegun, hspent⟩
  refine Observed.ask fun finish w₃ hlook => ⟨trivial, ?_⟩
  obtain rfl := clock.told hlook
  have helapsed : elapsed (time w) (time w₂) = elapsed k₂.begun k₂.last := by
    rw [hbegun, hsame, hclosed.now]
  rw [helapsed]
  refine Observed.ask fun _ w₄ _ => ⟨hclosed.timely hspent, ?_⟩
  refine .done ?_
  rw [← htold]
  rfl

/-- The records are those that were told of, however the commands come to their end. -/
theorem advance_watched (clock : PortClock time) (line : Line) (options : RunOptions)
    (patience total : Nat) (records : List Record) (commands : List Command) (w : σ) (k : Watch)
    (told : k.told = records) :
    Observed (Watch.see time) (Punctual time options.deadline)
      (advance line options patience total records commands) w k
      ⟨fun (_, all) _ k' => k'.told = all, fun i _ k' => k'.told = i.records,
        fun _ k' => ¬ k'.Over options.deadline⟩ := by
  induction commands generalizing records w k with
  | nil => exact .done told
  | cons c rest ih =>
    refine Observed.bind (V := ⟨fun r _ k' => k'.told = records ++ [r],
      fun i _ k' => k'.told = i.records, fun _ k' => ¬ k'.Over options.deadline⟩)
      ?_ ?_ (fun _ _ _ h => h) fun _ _ h => h
    · refine (execute_watched clock line options patience c w k).adapt ?_ ?_ fun _ _ h => h
      · exact fun r _ k' hr => told ▸ hr
      · exact fun _ _ k' he => told ▸ he
    · intro r w₁ k₁ htold
      dsimp only at htold ⊢
      cases r.ending with
      | success =>
        dsimp only
        split
        · exact .ask fun _ w₂ _ => ⟨trivial, ih _ w₂ k₁ htold⟩
        · exact ih _ w₁ k₁ htold
      | failure | timedOut => exact .done htold

/-- A record that is told of has been timely, so without a deadline none of them timed out. -/
theorem Watch.told_bounded {es : List Exchange} {w : σ} {k : Watch}
    (h : Throughout (observe (Watch.see time)) (fun s => Punctual time deadline s.1 s.2) (w, k) es)
    (told : ∀ r ∈ k.told, r.ending = .timedOut → deadline ≠ none) :
    ∀ r ∈ (es.foldl (observe (Watch.see time)) (w, k)).2.told,
      r.ending = .timedOut → deadline ≠ none := by
  induction es generalizing w k with
  | nil => exact told
  | cons e es ih =>
    obtain ⟨hnow, hrest⟩ := Throughout.cons_iff.mp h
    refine ih hrest ?_
    unfold Watch.see
    split
    · exact told
    · exact told
    · exact told
    · intro r hr
      rcases List.mem_append.mp hr with hr | hr
      · exact told r hr
      · obtain rfl := List.mem_singleton.mp hr
        exact Timely.bounded hnow
    · exact told

/-- Whatever the port gives and however long its calls take: every wait of a run ends with the
first read that brings a token or comes to the deadline, a token before the deadline, and every
record tells of the last wait of its command and of the time since the first. -/
theorem run_punctual (clock : PortClock time) (line : Line) (options : RunOptions)
    (patience : Nat) (commands : List Command) (w : σ) :
    let played := (run line options patience commands).run.play w
    let k := (played.exchanges.foldl (observe (Watch.see time)) (w, {})).2
    Throughout (observe (Watch.see time)) (fun s => Punctual time options.deadline s.1 s.2)
      (w, {}) played.exchanges ∧
    (∀ report, played.result = some (.ok report) → k.told = report.records) ∧
    (∀ i, played.result = some (.error i) → k.told = i.records) ∧
    (played.result = none → ¬ k.Over options.deadline) ∧
    (options.deadline = none → ∀ r ∈ k.told, r.ending ≠ .timedOut) ∧
    ∀ pacing : Pacing, pacing.options.deadline = none ↔ pacing.responseTimeout = 0 := by
  intro played k
  have hrun : Observed (Watch.see time) (Punctual time options.deadline)
      (run line options patience commands) w {}
      ⟨fun report _ k' => k'.told = report.records, fun i _ k' => k'.told = i.records,
        fun _ k' => ¬ k'.Over options.deadline⟩ := by
    refine .ask fun _ w₁ _ => ⟨trivial, ?_⟩
    refine (advance_watched clock line options patience commands.length [] commands w₁ {} rfl).bind
      ?_ (fun _ _ _ h => h) fun _ _ h => h
    rintro ⟨status, records⟩ w₂ k₂ htold
    exact .ask fun _ w₃ _ => ⟨trivial, .done htold⟩
  obtain ⟨hthrough, hends⟩ := hrun
  have hbounded := Watch.told_bounded hthrough (by simp)
  refine ⟨hthrough, ?_, ?_, ?_, ?_, ?_⟩
  · intro report hreport
    rwa [hreport] at hends
  · intro i hi
    rwa [hi] at hends
  · intro hnone
    rwa [hnone] at hends
  · exact fun hforever r hr hlate => hbounded r hr hlate hforever
  · intro pacing
    unfold Pacing.options
    split <;> simp_all

end

set_option maxRecDepth 4000 in
/-- The first reply is empty, and its only read ends just at the deadline. The command is sent once
more, with a wait of its own. -/
theorem resent_run_punctual :
    let bench : Bench :=
      { rig.modem.script := [⟨[], 0⟩, ⟨Verdict.successToken, 0⟩], rig.dataTime := 300,
        rig.silenceTime := 1000 }
    let r : Record := ⟨⟨"AT"⟩, .success, 2, 1, "OK\r\n"⟩
    let k : Watch := ⟨0, 1000, 1, Verdict.successToken, 1300, []⟩
    PortClock (fun b : Bench => b.rig.now) ∧
      ((run ⟨"M", false⟩ ⟨some 1, 0, .retryOnce⟩ 9 [⟨"AT"⟩]).run.play bench).result =
        some (.ok ⟨.completed 1, 1, [r]⟩) ∧ Timely (some 1) k r := by
  intro bench r k
  have hrun := (run_punctual Bench.clock ⟨"M", false⟩ ⟨some 1, 0, .retryOnce⟩ 9 [⟨"AT"⟩] bench).1
  refine ⟨Bench.clock, by cbv, ?_⟩
  generalize hplayed : (run ⟨"M", false⟩ ⟨some 1, 0, .retryOnce⟩ 9 [⟨"AT"⟩]).run.play bench = played
    at hrun
  have hsplit : played.exchanges = played.exchanges.take 22 ++
      ⟨.note (.settled r), ()⟩ :: played.exchanges.drop 23 := by
    rw [← hplayed]
    cbv
  have hwatch : ((played.exchanges.take 22).foldl (observe (Watch.see fun b : Bench => b.rig.now))
      (bench, {})).2 = k := by
    rw [← hplayed]
    cbv
  have hsettled : Punctual (fun b : Bench => b.rig.now) (some 1) _ _ ⟨.note (.settled r), ()⟩ :=
    hrun _ _ _ hsplit
  rwa [hwatch] at hsettled

end Sequence

end ModemBench
