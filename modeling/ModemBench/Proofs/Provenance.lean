import ModemBench.Proofs.Desk
import ModemBench.Proofs.Traffic
/-!
Where bytes come from. Beside a modem in traffic goes a ledger, in which each byte that waits or was
read, and each reply underway, stands with the number of the line that released it.
-/

namespace ModemBench

/-- An exchange as the modem `m` has it, which is then `m'`. Only calls of the port reach it. -/
def Modem.Serves (m m' : Modem) : Exchange → Prop
  | ⟨.write bytes, answer⟩ => m.write bytes = (answer, m')
  | ⟨.read cap, answer⟩ => m.read cap = (answer, m')
  | ⟨.clear, answer⟩ => answer = .ok () ∧ m' = m.clear
  | _ => m' = m

/-- Exchanges as the modem has them, one after the other. -/
inductive Modem.Served : Modem → List Exchange → Modem → Prop where
  | nil : Served m [] m
  | cons {m m' m'' : Modem} {e : Exchange} {es : List Exchange} (one : m.Serves m' e)
      (rest : Served m' es m'') : Served m (e :: es) m''

namespace Modem

/-- A read that succeeds gets the first of what is waiting, and leaves the rest. -/
theorem read_eq_ok {m m' : Modem} {cap : Nat} {bytes : Bytes} (h : m.read cap = (.ok bytes, m')) :
    bytes ≠ [] ∧ bytes <+: m.waiting ∧ m' = m.withWaiting (m.waiting.drop bytes.length) ∧
      (cap = Line.chunkSize → bytes = m.waiting.take m.reach) := by
  unfold read at h
  dsimp only at h
  split at h
  · cases h
  · next hbytes =>
    cases h
    refine ⟨hbytes, List.take_prefix _ _, ?_, ?_⟩
    · rw [List.length_take, withWaiting]
      congr 1
      simp [List.drop_eq_drop_iff]
    · rintro rfl
      rfl

/-- A read that fails has found nothing, and brings the replies underway nearer. -/
theorem read_eq_error {m m' : Modem} {cap : Nat} {e : PortError}
    (h : m.read cap = (.error e, m')) : m' = land { m with emptyReads := m.emptyReads + 1 } ∧
      (cap = Line.chunkSize → m.waiting.take m.reach = []) := by
  unfold read at h
  dsimp only at h
  split at h
  · next hnone =>
    cases h
    refine ⟨rfl, ?_⟩
    rintro rfl
    exact hnone
  · cases h

/-- A write that succeeds is taken in as far as the answer says, and that much is kept of it. -/
theorem write_eq_ok {m m' : Modem} {bytes : Bytes} {n : Nat} (h : m.write bytes = (.ok n, m')) :
    m' = ((bytes.take n).foldl accept m).withWrites (m.writes ++ [bytes.take n]) := by
  unfold write at h
  split at h
  · cases h
  · split at h
    · next cap _ =>
      cases h
      have htake : bytes.take (bytes.take cap).length = bytes.take cap := by
        simp [List.take_eq_take_iff]
      rw [← foldl_accept_withWrites, htake]
      rfl
    · cases h
      rw [← foldl_accept_withWrites, List.take_length]
      rfl

/-- A write that fails disarms the fault it met, and changes nothing else. -/
theorem write_eq_error {m m' : Modem} {bytes : Bytes} {e : PortError}
    (h : m.write bytes = (.error e, m')) :
    (∃ kind, m.writeFault = some kind ∧ e = .ofKind kind ∧ m' = { m with writeFault := none }) ∨
    ∃ line kind, m.writeFault = none ∧ m.lineFault = some (line, kind) ∧ e = .ofKind kind ∧
      m' = { m with lineFault := none } := by
  unfold write at h
  split at h
  · next kind faulty hfault =>
    cases h
    unfold writeFault? at hfault
    split at hfault
    · next kind hkind =>
      cases hfault
      exact .inl ⟨kind, hkind, rfl, rfl⟩
    · next hnone =>
      split at hfault
      · next line kind hline =>
        split at hfault
        · cases hfault
          exact .inr ⟨line, kind, hnone, hline, rfl, rfl⟩
        · cases hfault
      · cases hfault
  · cases h

theorem Served.append_iff {m m'' : Modem} {es es' : List Exchange} :
    Served m (es ++ es') m'' ↔ ∃ m', Served m es m' ∧ Served m' es' m'' := by
  induction es generalizing m with
  | nil =>
    refine ⟨fun h => ⟨m, .nil, h⟩, ?_⟩
    rintro ⟨m', ⟨⟩, h⟩
    exact h
  | cons e es ih =>
    constructor
    · rintro (_ | ⟨one, rest⟩)
      obtain ⟨m', hfirst, hsecond⟩ := ih.mp rest
      exact ⟨m', .cons one hfirst, hsecond⟩
    · rintro ⟨m', _ | ⟨one, rest⟩, hsecond⟩
      exact .cons one (ih.mpr ⟨m', rest, hsecond⟩)

theorem Served.fair {m m' : Modem} {es : List Exchange} (h : Served m es m') : FairPlay es := by
  induction h with
  | nil => exact List.forall_mem_nil _
  | @cons m m' m'' e es one rest ih =>
    refine FairPlay.cons_iff.mpr ⟨?_, ih⟩
    rcases e with ⟨q, answer⟩
    cases q with
    | write bytes =>
      cases answer with
      | ok n => exact write_le (congrArg Prod.fst one)
      | error => trivial
    | _ => trivial

theorem foldl_accept_reach (m : Modem) (bytes : Bytes) :
    (bytes.foldl accept m).reach = m.reach := by
  obtain ⟨_, _, _, _, _, hbytes⟩ := foldl_accept_frame m bytes
  rw [hbytes]
  rfl

theorem Serves.reach {m m' : Modem} {e : Exchange} (h : m.Serves m' e) : m'.reach = m.reach := by
  rcases e with ⟨q, answer⟩
  cases q with
  | write bytes =>
    cases answer with
    | ok n =>
      obtain rfl := write_eq_ok h
      exact foldl_accept_reach m _
    | error e =>
      rcases write_eq_error h with ⟨_, -, -, rfl⟩ | ⟨_, _, -, -, -, rfl⟩ <;> rfl
  | read cap =>
    cases answer with
    | ok bytes =>
      obtain ⟨-, -, rfl, -⟩ := read_eq_ok h
      rfl
    | error e =>
      obtain ⟨rfl, -⟩ := read_eq_error h
      rfl
  | clear =>
    obtain ⟨-, rfl⟩ := h
    rfl
  | _ =>
    cases h
    rfl

theorem Served.reach {m m' : Modem} {es : List Exchange} (h : m.Served es m') :
    m'.reach = m.reach := by
  induction h with
  | nil => rfl
  | cons one rest ih => exact ih.trans one.reach

/-- A read of a modem that has nothing underway takes what is waiting, as far as it reaches. -/
theorem Serves.read_still {m m' : Modem} {answer : Except PortError Bytes} (still : m.underway = [])
    (h : m.Serves m' ⟨.read Line.chunkSize, answer⟩) :
    Exchange.given ⟨.read Line.chunkSize, answer⟩ = m.waiting.take m.reach ∧
      m'.waiting = m.waiting.drop m.reach ∧ m'.underway = [] := by
  cases answer with
  | ok bytes =>
    obtain ⟨-, -, rfl, htake⟩ := read_eq_ok h
    have hbytes := htake rfl
    refine ⟨hbytes, ?_, still⟩
    change m.waiting.drop bytes.length = _
    simp [hbytes, List.drop_eq_drop_iff]
  | error e =>
    obtain ⟨rfl, htake⟩ := read_eq_error h
    have hnone := htake rfl
    have hkept : m.waiting.drop m.reach = m.waiting := by
      rcases List.take_eq_nil_iff.mp hnone with hreach | hwaiting
      · rw [hreach, List.drop_zero]
      · rw [hwaiting, List.drop_nil]
    exact ⟨hnone.symm, by simp [land, still, hkept], by simp [land, still]⟩

end Modem

/-- The port of such a world is a modem, and nothing else touches it. -/
def Fronts {σ : Type} [World σ] (modem : σ → Modem) : Prop :=
  ∀ q w, (modem w).Serves (modem (World.answer q w).2) ⟨q, (World.answer q w).1⟩

theorem Desk.fronts : Fronts Desk.modem := by
  intro q d
  cases q with
  | clear => exact ⟨rfl, rfl⟩
  | _ => rfl

theorem Fronts.play {α σ : Type} [World σ] {modem : σ → Modem} (fronts : Fronts modem)
    (d : Dialogue α) (w : σ) :
    (modem w).Served (d.play w).exchanges (modem (d.play w).world) := by
  induction d generalizing w with
  | done | halted => exact .nil
  | ask q next ih => exact .cons (fronts q w) (ih _ _)

/-- The last transmission. Bytes go by the number of the line that released them. -/
structure Wait where
  /-- What was waiting when it began. -/
  found : List (Nat × UInt8) := []
  /-- The reply that was next in the script then. -/
  due : Option Reply := none
  /-- What the host has read since. -/
  heard : List (Nat × UInt8) := []
  /-- Reads since then that came back empty. -/
  silent : Nat := 0

/-- What a modem has for its host, and what the host has had of it. Bytes and replies go by the
number of the line that released them; zero stands for what was there before. -/
structure Ledger where
  waiting : List (Nat × UInt8)
  underway : List (Nat × Reply)
  script : List Reply
  /-- Lines received so far. -/
  lines : Nat
  wait : Wait := {}

namespace Ledger

/-- The beginning of a transmission. -/
def started (l : Ledger) : Ledger :=
  { l with wait := { found := l.waiting, due := l.script.head? } }

/-- A whole line, which lets the next reply of the script go. -/
def line (l : Ledger) : Ledger :=
  let l := { l with lines := l.lines + 1 }
  match l.script with
  | [] => l
  | r :: rest =>
    if r.delay = 0 then
      { l with script := rest, waiting := l.waiting ++ r.bytes.map (l.lines, ·) }
    else { l with script := rest, underway := l.underway ++ [(l.lines, r)] }

def accept (l : Ledger) (b : UInt8) : Ledger := if b = 0x0A then l.line else l

def land (l : Ledger) : Ledger :=
  let nearer := l.underway.map fun u => (u.1, { u.2 with delay := u.2.delay - 1 })
  { l with
    underway := nearer.filter (·.2.delay ≠ 0)
    waiting := l.waiting ++
      (nearer.filter (·.2.delay = 0)).flatMap fun u => u.2.bytes.map (u.1, ·) }

/-- The ledger behind one more exchange. -/
def next (l : Ledger) : Exchange → Ledger
  | ⟨.write bytes, .ok n⟩ => (bytes.take n).foldl accept l
  | ⟨.read _, .ok bytes⟩ =>
    { l with
      waiting := l.waiting.drop bytes.length
      wait.heard := l.wait.heard ++ l.waiting.take bytes.length }
  | ⟨.read _, .error _⟩ => land { l with wait.silent := l.wait.silent + 1 }
  | ⟨.clear, .ok ()⟩ => { l with waiting := [] }
  | ⟨.note (.sending _ _), _⟩ => l.started
  | _ => l

/-- The ledger behind these exchanges. -/
def after (l : Ledger) (es : List Exchange) : Ledger := es.foldl next l

@[simp] theorem after_nil (l : Ledger) : l.after [] = l := rfl

@[simp] theorem after_cons (l : Ledger) (e : Exchange) (es : List Exchange) :
    l.after (e :: es) = (l.next e).after es := rfl

@[simp] theorem after_append (l : Ledger) (es es' : List Exchange) :
    l.after (es ++ es') = (l.after es).after es' := List.foldl_append

@[simp] theorem wait_line (l : Ledger) : l.line.wait = l.wait := by
  unfold line
  dsimp only
  split
  · rfl
  · split <;> rfl

@[simp] theorem wait_accept (l : Ledger) (b : UInt8) : (l.accept b).wait = l.wait := by
  unfold accept
  split <;> simp

@[simp] theorem wait_foldl_accept (l : Ledger) (bytes : Bytes) :
    (bytes.foldl accept l).wait = l.wait :=
  List.foldlRecOn bytes accept (motive := fun l' => l'.wait = l.wait) rfl
    fun l' h b _ => (wait_accept l' b).trans h

/-- The ledger and the modem have the same bytes and replies. -/
structure Tells (l : Ledger) (m : Modem) : Prop where
  waiting : l.waiting.map Prod.snd = m.waiting
  underway : l.underway.map Prod.snd = m.underway
  script : l.script = m.script
  lines : l.lines = m.lines.length

namespace Tells

variable {l : Ledger} {m m' : Modem} {es : List Exchange}

theorem accept (h : l.Tells m) (b : UInt8) : (l.accept b).Tells (m.accept b) := by
  obtain ⟨hwaiting, hunderway, hscript, hlines⟩ := h
  by_cases hb : b = 0x0A
  · have hcount : l.lines + 1 = (m.lines ++ [(b :: m.held).reverse]).length := by simp [hlines]
    simp only [Ledger.accept, Modem.accept, if_pos hb, Ledger.line, Modem.release, hscript]
    cases hs : m.script with
    | nil => exact ⟨hwaiting, hunderway, rfl, hcount⟩
    | cons r rest =>
      by_cases hr : r.delay = 0
      · simp only [if_pos hr]
        exact ⟨by simp [hwaiting, Function.comp_def], hunderway, rfl, hcount⟩
      · simp only [if_neg hr]
        exact ⟨hwaiting, by simp [hunderway], rfl, hcount⟩
  · simp only [Ledger.accept, Modem.accept, if_neg hb]
    exact ⟨hwaiting, hunderway, hscript, hlines⟩

theorem foldl_accept (h : l.Tells m) (bytes : Bytes) :
    (bytes.foldl Ledger.accept l).Tells (bytes.foldl Modem.accept m) := by
  induction bytes generalizing l m with
  | nil => exact h
  | cons b bytes ih => exact ih (h.accept b)

theorem land (h : l.Tells m) : l.land.Tells m.land := by
  obtain ⟨hwaiting, hunderway, hscript, hlines⟩ := h
  refine ⟨?_, ?_, hscript, hlines⟩
  · simp [Ledger.land, Modem.land, hwaiting, ← hunderway, List.filter_map, List.map_flatMap,
      List.flatMap_map, Function.comp_def]
  · simp [Ledger.land, Modem.land, ← hunderway, List.filter_map, Function.comp_def]

/-- What the host is given is what the ledger says it has heard. -/
theorem next {e : Exchange} (h : l.Tells m) (one : m.Serves m' e) :
    (l.next e).Tells m' ∧
      (e.sending? = none →
        (l.next e).wait.heard.map Prod.snd = l.wait.heard.map Prod.snd ++ e.given) := by
  rcases e with ⟨q, answer⟩
  cases q with
  | write bytes =>
    cases answer with
    | ok n =>
      obtain rfl := Modem.write_eq_ok one
      obtain ⟨hwaiting, hunderway, hscript, hlines⟩ := h.foldl_accept (bytes.take n)
      refine ⟨⟨hwaiting, hunderway, hscript, hlines⟩, fun _ => ?_⟩
      simp [Ledger.next, Exchange.given]
    | error e =>
      rcases Modem.write_eq_error one with ⟨_, -, -, rfl⟩ | ⟨_, _, -, -, -, rfl⟩ <;>
        exact ⟨⟨h.waiting, h.underway, h.script, h.lines⟩, fun _ => (List.append_nil _).symm⟩
  | read cap =>
    cases answer with
    | ok bytes =>
      obtain ⟨-, hbytes, rfl, -⟩ := Modem.read_eq_ok one
      have htake : m.waiting.take bytes.length = bytes := (List.prefix_iff_eq_take.mp hbytes).symm
      refine ⟨⟨?_, h.underway, h.script, h.lines⟩, fun _ => ?_⟩
      · simp [Ledger.next, Modem.withWaiting, ← h.waiting]
      · simp [Ledger.next, Exchange.given, List.map_take, h.waiting, htake]
    | error e =>
      obtain ⟨rfl, -⟩ := Modem.read_eq_error one
      have hquiet : ({ l with wait.silent := l.wait.silent + 1 } : Ledger).Tells
          { m with emptyReads := m.emptyReads + 1 } :=
        ⟨h.waiting, h.underway, h.script, h.lines⟩
      exact ⟨hquiet.land, fun _ => (List.append_nil _).symm⟩
  | clear =>
    obtain ⟨rfl, rfl⟩ := one
    exact ⟨⟨rfl, h.underway, h.script, h.lines⟩, fun _ => (List.append_nil _).symm⟩
  | note entry =>
    cases one
    cases entry with
    | sending => exact ⟨⟨h.waiting, h.underway, h.script, h.lines⟩, fun hs => by cases hs⟩
    | _ => exact ⟨h, fun _ => (List.append_nil _).symm⟩
  | _ =>
    cases one
    exact ⟨h, fun _ => (List.append_nil _).symm⟩

theorem after (h : l.Tells m) (served : m.Served es m') : (l.after es).Tells m' := by
  induction served generalizing l with
  | nil => exact h
  | cons one rest ih => exact ih (h.next one).1

/-- As long as no other transmission begins, the host has heard what the port gave it. -/
theorem heard (h : l.Tells m) (served : m.Served es m') (one : sendings es = []) :
    (l.after es).wait.heard.map Prod.snd =
      l.wait.heard.map Prod.snd ++ es.flatMap Exchange.given := by
  induction served generalizing l with
  | nil => simp
  | @cons m m' m'' e es now rest ih =>
    rw [sendings_cons, List.append_eq_nil_iff, Option.toList_eq_nil_iff] at one
    obtain ⟨hnext, hheard⟩ := h.next now
    rw [after_cons, ih hnext one.2, hheard one.1, List.flatMap_cons, List.append_assoc]

end Tells

/-- Every byte that waits or was heard, and every reply underway, goes by such a number. -/
structure All (P : Nat → Prop) (l : Ledger) : Prop where
  waiting : ∀ b ∈ l.waiting, P b.1
  underway : ∀ u ∈ l.underway, P u.1
  heard : ∀ b ∈ l.wait.heard, P b.1

theorem lines_line (l : Ledger) : l.line.lines = l.lines + 1 := by
  unfold line
  dsimp only
  split
  · rfl
  · split <;> rfl

theorem le_lines_accept (l : Ledger) (b : UInt8) : l.lines ≤ (l.accept b).lines := by
  unfold accept
  split
  · rw [lines_line]
    exact Nat.le_succ _
  · exact Nat.le_refl _

theorem le_lines_foldl (l : Ledger) (bytes : Bytes) : l.lines ≤ (bytes.foldl accept l).lines :=
  List.foldlRecOn bytes accept (motive := fun l' => l.lines ≤ l'.lines) (Nat.le_refl _)
    fun l' h b _ => Nat.le_trans h (l'.le_lines_accept b)

theorem le_lines_next (l : Ledger) (e : Exchange) : l.lines ≤ (l.next e).lines := by
  unfold next
  split <;> first | exact le_lines_foldl _ _ | exact Nat.le_refl _

theorem script_line (l : Ledger) : l.line.script <:+ l.script := by
  unfold line
  dsimp only
  split
  · exact List.suffix_rfl
  · next r rest hs =>
    rw [hs]
    split <;> exact List.suffix_cons r rest

theorem script_accept (l : Ledger) (b : UInt8) : (l.accept b).script <:+ l.script := by
  unfold accept
  split
  · exact l.script_line
  · exact List.suffix_rfl

theorem script_next (l : Ledger) (e : Exchange) : (l.next e).script <:+ l.script := by
  unfold next
  split
  · exact List.foldlRecOn _ accept (motive := fun l' => l'.script <:+ l.script) List.suffix_rfl
      fun l' h b _ => (l'.script_accept b).trans h
  all_goals exact List.suffix_rfl

/-- Replies leave the script, and none is added. -/
theorem script_after (l : Ledger) (es : List Exchange) : (l.after es).script <:+ l.script :=
  List.foldlRecOn es next (motive := fun l' => l'.script <:+ l.script) List.suffix_rfl
    fun l' h e _ => (l'.script_next e).trans h

namespace All

variable {P Q : Nat → Prop} {l : Ledger}

theorem mono (h : l.All P) (imp : ∀ k, P k → Q k) : l.All Q :=
  ⟨fun b hb => imp _ (h.waiting b hb), fun u hu => imp _ (h.underway u hu),
    fun b hb => imp _ (h.heard b hb)⟩

theorem line (h : l.All P) (new : P (l.lines + 1)) : l.line.All P := by
  unfold Ledger.line
  dsimp only
  split
  · exact ⟨h.waiting, h.underway, h.heard⟩
  · split
    · refine ⟨?_, h.underway, h.heard⟩
      intro b hb
      rcases List.mem_append.mp hb with hb | hb
      · exact h.waiting b hb
      · obtain ⟨_, -, rfl⟩ := List.mem_map.mp hb
        exact new
    · refine ⟨h.waiting, ?_, h.heard⟩
      intro u hu
      rcases List.mem_append.mp hu with hu | hu
      · exact h.underway u hu
      · cases List.mem_singleton.mp hu
        exact new

theorem accept (h : l.All P) (b : UInt8)
    (new : ∀ k, l.lines < k → k ≤ (l.accept b).lines → P k) : (l.accept b).All P := by
  by_cases hb : b = 0x0A
  · simp only [Ledger.accept, if_pos hb, lines_line] at new ⊢
    exact h.line (new _ (Nat.lt_succ_self _) (Nat.le_refl _))
  · simpa only [Ledger.accept, if_neg hb] using h

theorem foldl_accept (h : l.All P) (bytes : Bytes)
    (new : ∀ k, l.lines < k → k ≤ (bytes.foldl Ledger.accept l).lines → P k) :
    (bytes.foldl Ledger.accept l).All P := by
  induction bytes generalizing l with
  | nil => exact h
  | cons b bytes ih =>
    have hle := le_lines_foldl (l.accept b) bytes
    refine ih (h.accept b fun k hk hk' => new k hk (Nat.le_trans hk' hle)) fun k hk => new k ?_
    exact Nat.lt_of_le_of_lt (l.le_lines_accept b) hk

theorem land (h : l.All P) : l.land.All P := by
  have hnearer : ∀ u ∈ l.underway.map fun u => (u.1, { u.2 with delay := u.2.delay - 1 }),
      P u.1 := by
    intro u hu
    obtain ⟨v, hv, rfl⟩ := List.mem_map.mp hu
    exact h.underway v hv
  refine ⟨?_, fun u hu => hnearer u (List.mem_filter.mp hu).1, h.heard⟩
  intro b hb
  rcases List.mem_append.mp hb with hb | hb
  · exact h.waiting b hb
  · obtain ⟨u, hu, hb⟩ := List.mem_flatMap.mp hb
    obtain ⟨_, -, rfl⟩ := List.mem_map.mp hb
    exact hnearer u (List.mem_filter.mp hu).1

/-- Only lines received on the way add new numbers. -/
theorem next (h : l.All P) (e : Exchange)
    (new : ∀ k, l.lines < k → k ≤ (l.next e).lines → P k) : (l.next e).All P := by
  unfold Ledger.next at new ⊢
  split at new
  · exact h.foldl_accept _ new
  · refine ⟨fun b hb => h.waiting b (List.mem_of_mem_drop hb), h.underway, fun b hb => ?_⟩
    rcases List.mem_append.mp hb with hb | hb
    · exact h.heard b hb
    · exact h.waiting b (List.mem_of_mem_take hb)
  · exact land ⟨h.waiting, h.underway, h.heard⟩
  · exact ⟨List.forall_mem_nil _, h.underway, h.heard⟩
  · exact ⟨h.waiting, h.underway, List.forall_mem_nil _⟩
  · exact h

theorem after (h : l.All P) (es : List Exchange) (new : ∀ k, l.lines < k → P k) :
    (l.after es).All P := by
  induction es generalizing l with
  | nil => exact h
  | cons e es ih =>
    refine ih (h.next e fun k hk _ => new k hk) fun k hk => new k ?_
    exact Nat.lt_of_le_of_lt (l.le_lines_next e) hk

end All

/-- Nothing goes by the number of a line that is yet to come. -/
def Dated (l : Ledger) : Prop := l.All (· ≤ l.lines)

theorem Dated.next {l : Ledger} (h : l.Dated) (e : Exchange) : (l.next e).Dated :=
  All.next (h.mono fun _ hk => Nat.le_trans hk (l.le_lines_next e)) e fun _ _ hk => hk

theorem Dated.after {l : Ledger} (h : l.Dated) (es : List Exchange) : (l.after es).Dated :=
  List.foldlRecOn es Ledger.next h fun _ hl e _ => hl.next e

end Ledger

/-- The ledger of a modem before a run. -/
def Modem.ledger (m : Modem) : Ledger where
  waiting := m.waiting.map (0, ·)
  underway := m.underway.map (0, ·)
  script := m.script
  lines := m.lines.length

theorem Modem.ledger_tells (m : Modem) : m.ledger.Tells m :=
  ⟨by simp [ledger, Function.comp_def], by simp [ledger, Function.comp_def], rfl, rfl⟩

theorem Modem.ledger_dated (m : Modem) : m.ledger.Dated := by
  refine ⟨?_, ?_, List.forall_mem_nil _⟩
  · intro b hb
    obtain ⟨_, -, rfl⟩ := List.mem_map.mp hb
    exact Nat.zero_le _
  · intro u hu
    obtain ⟨_, -, rfl⟩ := List.mem_map.mp hu
    exact Nat.zero_le _

end ModemBench
