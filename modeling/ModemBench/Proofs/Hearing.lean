import ModemBench.Proofs.Observation
import ModemBench.Proofs.Provenance
import ModemBench.Proofs.Transmission
/-!
What a transmission makes of the ledger: the line releases a reply, and the wait reads. A record
is made of what was heard since the last transmission began.
-/

namespace ModemBench

namespace Ledger

/-- `P` holds of each exchange and of the ledger before it. -/
def Always (P : Ledger → Exchange → Prop) (l : Ledger) (es : List Exchange) : Prop :=
  ∀ front e rest, es = front ++ e :: rest → P (l.after front) e

namespace Always

variable {P : Ledger → Exchange → Prop} {l : Ledger}

theorem nil : Always P l [] := Throughout.nil

theorem cons_iff {e : Exchange} {es : List Exchange} :
    Always P l (e :: es) ↔ P l e ∧ Always P (l.next e) es := Throughout.cons_iff

theorem append_iff {es es' : List Exchange} :
    Always P l (es ++ es') ↔ Always P l es ∧ Always P (l.after es) es' := Throughout.append_iff

end Always

end Ledger

/-- Whether this is a note that begins a transmission or tells of a record. -/
def Exchange.marks : Exchange → Bool
  | ⟨.note (.sending _ _), _⟩ | ⟨.note (.settled _), _⟩ => true
  | _ => false

/-- No note among the exchanges begins a transmission or tells of a record. -/
def Unmarked (es : List Exchange) : Prop := ∀ e ∈ es, e.marks = false

@[simp] theorem Unmarked.nil : Unmarked [] := by simp [Unmarked]

@[simp] theorem Unmarked.cons_iff {e : Exchange} {es : List Exchange} :
    Unmarked (e :: es) ↔ e.marks = false ∧ Unmarked es := by
  simp [Unmarked]

@[simp] theorem Unmarked.append_iff {es es' : List Exchange} :
    Unmarked (es ++ es') ↔ Unmarked es ∧ Unmarked es' := by
  simp [Unmarked, or_imp, forall_and]

theorem Unmarked.noted (b : Bool) {entry : Note} (h : Exchange.marks ⟨.note entry, ()⟩ = false) :
    Unmarked (noted b entry) := by
  cases b <;> simp [ModemBench.noted, h]

/-- What says nothing of an unmarked exchange holds throughout a stretch of them. -/
theorem Unmarked.always {P : Ledger → Exchange → Prop} {l : Ledger} {es : List Exchange}
    (h : Unmarked es) (hP : ∀ l e, e.marks = false → P l e) : l.Always P es := by
  rintro front e rest rfl
  exact hP _ _ (h e (by simp))

theorem Pushed.unmarked {port : String} {total written : Nat} {left : Bytes} {es : List Exchange}
    {r : Except LinkError Nat} (h : Pushed port total written left es r) : Unmarked es := by
  induction h with
  | whole => exact .nil
  | some more rest ih => exact Unmarked.cons_iff.mpr ⟨rfl, ih⟩
  | stalled | failed => simp [Exchange.marks]

theorem Sent.unmarked {line : Line} {c : Command} {es : List Exchange} {r : Except LinkError Unit}
    (h : Sent line c es r) : Unmarked es := by
  have hnoted : Unmarked (noted line.verbose (.wireOut c)) := .noted _ rfl
  cases h with
  | unwritten pushed | unflushed pushed | whole pushed =>
    simp [hnoted, pushed.unmarked, Exchange.marks]

theorem Received.unmarked {line : Line} {es : List Exchange} {r : Except LinkError Bytes}
    (h : Received line es r) : Unmarked es := by
  cases h with
  | chunk chunk =>
    have hnoted : Unmarked (noted (line.verbose && !chunk.isEmpty) (.wireIn chunk)) := .noted _ rfl
    simp [hnoted, Exchange.marks]
  | silence | failed => simp [Exchange.marks]

/-- Exchanges that the modem and the ledger pass over. -/
def Aside (es : List Exchange) : Prop :=
  ∀ e ∈ es, (∀ l : Ledger, l.next e = l) ∧ ∀ m m' : Modem, m.Serves m' e → m' = m

namespace Aside

theorem nil : Aside [] := List.forall_mem_nil _

theorem cons {e : Exchange} {es : List Exchange} (next : ∀ l : Ledger, l.next e = l)
    (serves : ∀ m m' : Modem, m.Serves m' e → m' = m) (rest : Aside es) : Aside (e :: es) :=
  List.forall_mem_cons.mpr ⟨⟨next, serves⟩, rest⟩

theorem clock (now : Nat) : Aside [⟨.clock, now⟩] := .cons (fun _ => rfl) (fun _ _ => id) .nil

theorem deadline (now time : Nat) (possible : Bool) :
    Aside [⟨.clock, now⟩, ⟨.tellable time, possible⟩] :=
  .cons (fun _ => rfl) (fun _ _ => id) (.cons (fun _ => rfl) (fun _ _ => id) .nil)

theorem noted (b : Bool) {entry : Note} (h : ∀ l : Ledger, l.next ⟨.note entry, ()⟩ = l) :
    Aside (noted b entry) := by
  cases b with
  | false => exact .nil
  | true => exact .cons h (fun _ _ => id) .nil

theorem after {es : List Exchange} (h : Aside es) (l : Ledger) : l.after es = l := by
  induction es with
  | nil => rfl
  | cons e es ih =>
    obtain ⟨⟨hnext, -⟩, hrest⟩ := List.forall_mem_cons.mp h
    rw [Ledger.after_cons, hnext, ih hrest]

theorem served {es : List Exchange} (h : Aside es) {m m' : Modem} (served : m.Served es m') :
    m' = m := by
  induction served with
  | nil => rfl
  | cons one rest ih =>
    obtain ⟨⟨-, hserves⟩, hrest⟩ := List.forall_mem_cons.mp h
    rw [ih hrest, hserves _ _ one]

end Aside

/-- The taken bytes of a push reach the modem one by one. -/
theorem Pushed.after {port : String} {total written : Nat} {left : Bytes} {es : List Exchange}
    {r : Except LinkError Nat} (h : Pushed port total written left es r) (l : Ledger) :
    l.after es = (es.flatMap Exchange.taken).foldl Ledger.accept l := by
  induction h generalizing l with
  | whole | stalled | failed => rfl
  | some more rest ih =>
    rw [Ledger.after_cons, ih, List.flatMap_cons, List.foldl_append]
    rfl

theorem Ledger.foldl_accept_wire {c : Command} (hc : '\n' ∉ c.line.toList) (l : Ledger) :
    c.wire.foldl accept l = l.line := by
  have hbody : ∀ body : Bytes, 0x0A ∉ body → body.foldl accept l = l := by
    intro body h
    induction body with
    | nil => rfl
    | cons b body ih =>
      obtain ⟨hb, hbody⟩ := List.ne_and_not_mem_of_not_mem_cons h
      rw [List.foldl_cons, accept, if_neg hb.symm, ih hbody]
  obtain ⟨body, hwire, hends⟩ := c.wire_ends hc
  rw [hwire, List.foldl_append, hbody body hends]
  rfl

/-- A command that is sent is one line for the modem, however the writes cut it. -/
theorem Sent.after {line : Line} {c : Command} {es : List Exchange} (h : Sent line c es (.ok ()))
    (fair : FairPlay es) (hc : '\n' ∉ c.line.toList) (l : Ledger) : l.after es = l.line := by
  cases h with
  | whole pushed =>
    simp only [FairPlay.append_iff] at fair
    have hnoted : Aside (noted line.verbose (.wireOut c)) := .noted _ fun _ => rfl
    rw [Ledger.after_append, hnoted.after, Ledger.after_append, pushed.after, pushed.taken fair.2.1,
      Ledger.foldl_accept_wire hc]
    rfl

/-- A read is one exchange for the modem. -/
theorem Received.read {line : Line} {es : List Exchange} {r : Except LinkError Bytes}
    (h : Received line es r) :
    ∃ answer rest, es = ⟨.read Line.chunkSize, answer⟩ :: rest ∧ Aside rest ∧
      ∀ chunk, r = .ok chunk → Exchange.given ⟨.read Line.chunkSize, answer⟩ = chunk := by
  cases h with
  | chunk => exact ⟨_, _, rfl, .noted _ fun _ => rfl, fun _ hr => Except.ok.inj hr⟩
  | silence => exact ⟨_, _, rfl, .nil, fun _ hr => Except.ok.inj hr⟩
  | failed => exact ⟨_, _, rfl, .nil, by rintro _ ⟨⟩⟩

namespace Sequence

theorem Early.aside {deadline : Option Nat} {es : List Exchange} (h : Early deadline es) :
    Aside es := by
  cases h with
  | never => exact .nil
  | soon left => exact .clock _

theorem Early.unmarked {deadline : Option Nat} {es : List Exchange} (h : Early deadline es) :
    Unmarked es := by
  cases h <;> simp [Exchange.marks]

theorem Due.unmarked {deadline : Option Nat} {es : List Exchange} {r : Option (Option Nat)}
    (h : Due deadline es r) : Unmarked es := by
  cases h <;> simp [Exchange.marks]

theorem Due.aside {deadline : Option Nat} {es : List Exchange} {r : Option (Option Nat)}
    (h : Due deadline es r) : Aside es := by
  cases h with
  | never => exact .nil
  | set now | overflow now => exact .deadline now _ _

theorem aside_pause (options : RunOptions) (left : List Command) : Aside (pause options left) := by
  unfold pause
  split
  · exact .cons (fun _ => rfl) (fun _ _ => id) .nil
  · exact .nil

theorem unmarked_pause (options : RunOptions) (left : List Command) :
    Unmarked (pause options left) := by
  unfold pause
  split <;> simp [Exchange.marks]

namespace Gathered

variable {line : Line} {deadline : Option Nat} {received : Bytes} {es : List Exchange}
  {r : Option (Except LinkError (Ending × Bytes))}

theorem unmarked (h : Gathered line deadline received es r) : Unmarked es := by
  induction h with
  | impatient => exact .nil
  | failed read | settled read token => exact read.unmarked
  | late read unsettled bound past => simp [read.unmarked, Exchange.marks]
  | again read unsettled early rest ih =>
    simp [read.unmarked, early.unmarked, ih]

/-- What every read preserves holds after the wait. -/
theorem preserves {I : Ledger → Prop} (h : Gathered line deadline received es r)
    (read : ∀ l answer, I l → I (l.next ⟨.read Line.chunkSize, answer⟩)) {l : Ledger} (hl : I l) :
    I (l.after es) := by
  have hreceived : ∀ {es r l}, Received line es r → I l → I (l.after es) := by
    intro es r l h hl
    obtain ⟨answer, rest, rfl, haside, -⟩ := h.read
    rw [Ledger.after_cons, haside.after]
    exact read l answer hl
  induction h generalizing l with
  | impatient => exact hl
  | failed now | settled now => exact hreceived now hl
  | late now =>
    rw [Ledger.after_append, (Aside.clock _).after]
    exact hreceived now hl
  | again now unsettled early rest ih =>
    rw [Ledger.after_append, Ledger.after_append, early.aside.after]
    exact ih (hreceived now hl)

end Gathered

namespace Attempted

variable {line : Line} {options : RunOptions} {c : Command} {number : Nat} {es : List Exchange}

/-- The only note in a transmission that counts is its first. -/
theorem unmarked {r : Option (Except LinkError (Ending × Bytes))}
    (h : Attempted line options c number es r) :
    ∃ rest, es = ⟨.note (.sending c number), ()⟩ :: rest ∧ Unmarked rest := by
  cases h with
  | unsent send => exact ⟨_, rfl, send.unmarked⟩
  | beyond send far => exact ⟨_, rfl, by simp [send.unmarked, far.unmarked, Exchange.marks]⟩
  | sent send set wait =>
    exact ⟨_, rfl, by simp [send.unmarked, set.unmarked, wait.unmarked, Exchange.marks]⟩

/-- A transmission is a line for the modem, and then the reads of the wait. -/
theorem waits {ending : Ending} {response : Bytes} {m m' : Modem}
    (h : Attempted line options c number es (some (.ok (ending, response))))
    (hc : '\n' ∉ c.line.toList) (served : m.Served es m') :
    ∃ due front wait m₁, es = front ++ wait ∧
      Gathered line due [] wait (some (.ok (ending, response))) ∧ m.Served front m₁ ∧
      m₁.Served wait m' ∧ ∀ l : Ledger, l.after front = l.started.line := by
  cases h with
  | @sent es look due wait r send set gathered =>
    have hes : ⟨.note (.sending c number), ()⟩ :: (es ++ ⟨.note (.awaiting c), ()⟩ ::
        (look ++ wait)) = ⟨.note (.sending c number), ()⟩ :: (es ++ ⟨.note (.awaiting c), ()⟩ ::
          look) ++ wait := by simp
    rw [hes] at served ⊢
    obtain ⟨m₁, hfront, hwait⟩ := Modem.Served.append_iff.mp served
    refine ⟨due, _, wait, m₁, rfl, gathered, hfront, hwait, fun l => ?_⟩
    have hsent := send.after (FairPlay.append_iff.mp (FairPlay.cons_iff.mp hfront.fair).2).1 hc
    rw [Ledger.after_cons, Ledger.after_append, hsent, Ledger.after_cons, set.aside.after]
    rfl

theorem heard_bytes {ending : Ending} {response : Bytes} {l : Ledger} {m m' : Modem}
    (h : Attempted line options c number es (some (.ok (ending, response)))) (tells : l.Tells m)
    (served : m.Served es m') : (l.after es).wait.heard.map Prod.snd = response := by
  obtain ⟨rest, rfl, hone⟩ := h.transmission
  obtain _ | ⟨begun, served⟩ := served
  have hheard := (tells.next begun).1.heard served hone
  rw [Ledger.after_cons, hheard, h.heard.1]
  rfl

theorem always {P : Ledger → Exchange → Prop} {r : Option (Except LinkError (Ending × Bytes))}
    {l : Ledger} (h : Attempted line options c number es r)
    (rest : ∀ l e, e.marks = false → P l e) (begun : P l ⟨.note (.sending c number), ()⟩) :
    l.Always P es := by
  obtain ⟨after, rfl, hafter⟩ := h.unmarked
  exact Ledger.Always.cons_iff.mpr ⟨begun, hafter.always rest⟩

end Attempted

/-- What a record tells of the bytes that settled its command. -/
structure Settles (bytes : Bytes) (r : Record) : Prop where
  ending : r.ending = verdictOn bytes
  response : r.response = Text.decode bytes

variable {line : Line} {options : RunOptions} {c : Command} {es : List Exchange}
  {P : Ledger → Exchange → Prop} {l : Ledger} {m m' : Modem}

/-- The transmission that settles a command begins with it or behind a clearing. -/
theorem Settled.last {attempts : Nat} {ending : Ending} {response : Bytes}
    (h : Settled line options c es (some (.ok (attempts, ending, response)))) :
    ∃ front number last, es = front ++ last ∧
      Attempted line options c number last (some (.ok (ending, response))) ∧
      (front = [] ∨ ∀ l : Ledger, (l.after front).waiting = []) := by
  cases h with
  | once first kept => exact ⟨[], 1, es, rfl, first, .inl rfl⟩
  | @twice first _ second _ _ before policy after =>
    refine ⟨first ++ resending c, 2, second, (List.append_assoc _ _ _).symm, after, .inr ?_⟩
    intro l
    rw [Ledger.after_append]
    rfl

/-- A record tells of what was heard since the last transmission began. -/
theorem Settled.settles {attempts : Nat} {ending : Ending} {response : Bytes}
    (h : Settled line options c es (some (.ok (attempts, ending, response)))) (tells : l.Tells m)
    (served : m.Served es m') (elapsed : UInt64) :
    Settles ((l.after es).wait.heard.map Prod.snd)
      ⟨c, ending, attempts, elapsed, Text.decode response⟩ := by
  obtain ⟨front, number, last, rfl, hlast, -⟩ := h.last
  obtain ⟨m₁, hfront, hserved⟩ := Modem.Served.append_iff.mp served
  rw [Ledger.after_append, hlast.heard_bytes (tells.after hfront) hserved]
  exact ⟨hlast.heard.2, rfl⟩

/-- The places in a command that count: the beginning of each transmission, and the record. -/
theorem Settled.always {r : Option (Except LinkError (Nat × Ending × Bytes))}
    (h : Settled line options c es r) (served : m.Served es m')
    (rest : ∀ l e, e.marks = false → P l e) (begun : P l ⟨.note (.sending c 1), ()⟩)
    (again : ∀ {first lost m₁},
      Attempted line options c 1 first (some (.ok (.timedOut, lost))) → m.Served first m₁ →
        P ((l.after first).after (resending c)) ⟨.note (.sending c 2), ()⟩) : l.Always P es := by
  have hresend : ∀ {first lost second r},
      Attempted line options c 1 first (some (.ok (.timedOut, lost))) →
      Attempted line options c 2 second r → m.Served (first ++ (resending c ++ second)) m' →
        l.Always P (first ++ (resending c ++ second)) := by
    intro first lost second r hfirst hsecond served
    obtain ⟨m₁, hserved, -⟩ := Modem.Served.append_iff.mp served
    have hresending : Unmarked (resending c) := by simp [resending, Exchange.marks]
    refine Ledger.Always.append_iff.mpr ⟨hfirst.always rest begun, ?_⟩
    refine Ledger.Always.append_iff.mpr ⟨hresending.always rest, ?_⟩
    exact hsecond.always rest (again hfirst hserved)
  cases h with
  | once first kept => exact first.always rest begun
  | cut first => exact first.always rest begun
  | halted first => exact first.always rest begun
  | uncleared first policy e =>
    have hcleared : Unmarked [⟨.note (.retrying c), ()⟩, ⟨.clear, .error e⟩] := by
      simp [Exchange.marks]
    exact Ledger.Always.append_iff.mpr ⟨first.always rest begun, hcleared.always rest⟩
  | twice first policy second => exact hresend first second served
  | cutAgain first policy second => exact hresend first second served
  | haltedAgain first policy second => exact hresend first second served

theorem Executed.always {r : Option (Except LinkError Record)}
    (h : Executed line options c es r) (served : m.Served es m')
    (rest : ∀ l e, e.marks = false → P l e) (begun : P l ⟨.note (.sending c 1), ()⟩)
    (again : ∀ {first lost m₁},
      Attempted line options c 1 first (some (.ok (.timedOut, lost))) → m.Served first m₁ →
        P ((l.after first).after (resending c)) ⟨.note (.sending c 2), ()⟩)
    (ended : ∀ {during attempts ending response m₁ elapsed},
      Settled line options c during (some (.ok (attempts, ending, response))) →
      m.Served during m₁ →
        P (l.after during)
          ⟨.note (.settled ⟨c, ending, attempts, elapsed, Text.decode response⟩), ()⟩) :
    l.Always P es := by
  cases h with
  | recorded start finish settled record =>
    subst record
    obtain _ | ⟨started, served⟩ := served
    obtain rfl := started
    obtain ⟨m₁, hserved, -⟩ := Modem.Served.append_iff.mp served
    refine Ledger.Always.cons_iff.mpr ⟨rest _ _ rfl, ?_⟩
    refine Ledger.Always.append_iff.mpr ⟨settled.always hserved rest begun again, ?_⟩
    refine Ledger.Always.cons_iff.mpr ⟨rest _ _ rfl, ?_⟩
    exact Ledger.Always.cons_iff.mpr ⟨ended settled hserved, .nil⟩
  | cut start settled | halted start settled =>
    obtain _ | ⟨started, served⟩ := served
    obtain rfl := started
    exact Ledger.Always.cons_iff.mpr ⟨rest _ _ rfl, settled.always served rest begun again⟩

/-- Each of the commands, executed where `I` holds, has `P` throughout, and `I` again if it
succeeds. -/
def Upholds (line : Line) (options : RunOptions) (P : Ledger → Exchange → Prop)
    (I : Ledger → Modem → Prop) (commands : List Command) : Prop :=
  ∀ c ∈ commands, ∀ es r l m m', Executed line options c es r → I l m → m.Served es m' →
    l.Always P es ∧ ∀ record, r = some (.ok record) → record.ending = .success → I (l.after es) m'

theorem Advanced.always {I : Ledger → Modem → Prop} {total : Nat} {records : List Record}
    {commands : List Command} {r : Option (Except Interruption (Status × List Record))}
    (h : Advanced line options total records commands es r)
    (rest : ∀ l e, e.marks = false → P l e)
    (upholds : Upholds line options P I commands)
    (hl : I l m) (served : m.Served es m') : l.Always P es := by
  induction h generalizing l m with
  | finished => exact .nil
  | success now good left ih =>
    obtain ⟨m₁, hnow, hserved⟩ := Modem.Served.append_iff.mp served
    obtain ⟨m₂, hpause, hleft⟩ := Modem.Served.append_iff.mp hserved
    obtain rfl := (aside_pause _ _).served hpause
    obtain ⟨halways, hnext⟩ := upholds _ List.mem_cons_self _ _ _ _ _ now hl hnow
    refine Ledger.Always.append_iff.mpr ⟨halways, Ledger.Always.append_iff.mpr ⟨?_, ?_⟩⟩
    · exact (unmarked_pause _ _).always rest
    · rw [(aside_pause _ _).after]
      exact ih (fun c hc => upholds c (List.mem_cons_of_mem _ hc)) (hnext _ rfl good) hleft
  | failure now | timedOut now | cut now | halted now =>
    exact (upholds _ List.mem_cons_self _ _ _ _ _ now hl served).1

theorem Ran.always {I : Ledger → Modem → Prop} {commands : List Command}
    {r : Option (Except Interruption Report)} (h : Ran line options commands es r)
    (rest : ∀ l e, e.marks = false → P l e)
    (upholds : Upholds line options P I commands)
    (hl : I l m) (served : m.Served es m') : l.Always P es := by
  cases h with
  | reported course report =>
    obtain _ | ⟨started, served⟩ := served
    obtain rfl := started
    obtain ⟨m₁, hserved, -⟩ := Modem.Served.append_iff.mp served
    refine Ledger.Always.cons_iff.mpr ⟨rest _ _ rfl, ?_⟩
    refine Ledger.Always.append_iff.mpr ⟨course.always rest upholds hl hserved, ?_⟩
    exact Ledger.Always.cons_iff.mpr ⟨rest _ _ rfl, .nil⟩
  | cut course | halted course =>
    obtain _ | ⟨started, served⟩ := served
    obtain rfl := started
    exact Ledger.Always.cons_iff.mpr ⟨rest _ _ rfl, course.always rest upholds hl served⟩

end Sequence

end ModemBench
