import Mathlib
import ModemBench.Bench.World
import ModemBench.Proofs.Encoding
import ModemBench.Proofs.WireTraffic
/-!
Sending a line. Each write is offered what the writes before have not taken, and what comes of it
all is told by the last that the port is asked: the flush, or a write that was not taken.
-/

namespace ModemBench

/-- What the port is asked, without what is noted beside it. -/
def onPort (es : List Exchange) : List Exchange := es.filter (·.question.call?.isSome)

@[simp] theorem onPort_append (es es' : List Exchange) :
    onPort (es ++ es') = onPort es ++ onPort es' := List.filter_append _ _

theorem onPort_noted (b : Bool) (entry : Note) : onPort (noted b entry) = [] := by
  cases b <;> rfl

/-- Whether the port takes something of what it is offered. -/
def Exchange.accepts : Exchange → Bool
  | ⟨.write _, .ok n⟩ => n != 0
  | _ => false

/-- Only the last of some exchanges is of a kind, so that is the one. -/
theorem last_of_kind {kind : Exchange → Bool} {es front rest : List Exchange} {last e : Exchange}
    (other : ∀ e ∈ es, kind e = false) (split : es ++ [last] = front ++ e :: rest)
    (he : kind e = true) : front = es ∧ e = last ∧ rest = [] := by
  rcases List.append_eq_append_iff.mp split with ⟨between, rfl, hlast⟩ | ⟨between, rfl, hrest⟩
  · rcases List.singleton_eq_append_iff.mp hlast with ⟨rfl, hlast⟩ | ⟨-, hlast⟩
    · obtain ⟨rfl, rfl⟩ := List.cons_eq_cons.mp hlast
      exact ⟨List.append_nil _, rfl, rfl⟩
    · cases hlast
  · rcases List.cons_eq_append_iff.mp hrest with ⟨rfl, hlast⟩ | ⟨between, rfl, rfl⟩
    · obtain ⟨rfl, rfl⟩ := List.cons_eq_cons.mp hlast
      exact ⟨(List.append_nil _).symm, rfl, rfl⟩
    · rw [other e (by simp)] at he
      cases he

/-- Writes that are all taken in part or in whole, and the bytes left to offer after them. -/
inductive Accepted : Bytes → List Exchange → Bytes → Prop where
  | nil (left : Bytes) : Accepted left [] left
  | cons (more : left ≠ []) (fair : n + 1 ≤ left.length)
      (rest : Accepted (left.drop (n + 1)) es after) :
      Accepted left (⟨.write left, .ok (n + 1)⟩ :: es) after

namespace Accepted

variable {left after : Bytes} {es : List Exchange}

theorem accepts (h : Accepted left es after) : ∀ e ∈ es, e.accepts = true := by
  induction h with
  | nil => exact List.forall_mem_nil _
  | cons more fair rest ih => exact List.forall_mem_cons.mpr ⟨rfl, ih⟩

theorem unlike {kind : Exchange → Bool} (h : Accepted left es after)
    (other : ∀ bytes n, kind ⟨.write bytes, .ok (n + 1)⟩ = false) : ∀ e ∈ es, kind e = false := by
  induction h with
  | nil => exact List.forall_mem_nil _
  | cons more fair rest ih => exact List.forall_mem_cons.mpr ⟨other _ _, ih⟩

theorem onPort (h : Accepted left es after) : onPort es = es :=
  List.filter_eq_self.mpr fun e he => by
    have := h.accepts e he
    rcases e with ⟨_ | _, _⟩ <;> first | rfl | cases this

theorem taken (h : Accepted left es after) : es.flatMap Exchange.taken ++ after = left := by
  induction h with
  | nil => rfl
  | cons more fair rest ih =>
    rw [List.flatMap_cons, List.append_assoc, ih]
    exact List.take_append_drop _ _

/-- Each of them takes a byte at least. -/
theorem length_le (h : Accepted left es after) : es.length + after.length ≤ left.length := by
  induction h with
  | nil => simp
  | cons more fair rest ih =>
    simp only [List.length_cons, List.length_drop] at *
    omega

/-- Each write is offered what is left, and so is the one behind them if there is one. -/
theorem offers {last : Exchange} (h : Accepted left es after)
    (hlast : ∀ bytes answer, last = ⟨.write bytes, answer⟩ → bytes = after ∧ after ≠ [])
    {front rest : List Exchange} {bytes : Bytes} {answer : Except PortError Nat}
    (split : es ++ [last] = front ++ ⟨.write bytes, answer⟩ :: rest) :
    front.flatMap Exchange.taken ++ bytes = left ∧ bytes ≠ [] := by
  induction h generalizing front with
  | nil =>
    obtain ⟨rfl, hwrite, -⟩ := @last_of_kind (fun _ => true) _ _ _ _ _ (by simp) split rfl
    obtain ⟨rfl, more⟩ := hlast _ _ hwrite.symm
    exact ⟨rfl, more⟩
  | cons more fair rest ih =>
    rcases List.cons_eq_append_iff.mp split with ⟨rfl, hwrite⟩ | ⟨front, rfl, hrest⟩
    · cases hwrite
      exact ⟨rfl, more⟩
    · obtain ⟨hoffer, hbytes⟩ := ih hlast hrest
      refine ⟨?_, hbytes⟩
      rw [List.flatMap_cons, List.append_assoc, hoffer]
      exact List.take_append_drop _ _

end Accepted

/-- The last that the port is asked when a line is sent, with `left` still to offer after `written`
of `total` bytes, and what comes of it. -/
inductive Closing (port : String) (written total : Nat) :
    (left : Bytes) → Exchange → Except LinkError Unit → Prop where
  | stalled (more : left ≠ []) (short : written < total) :
      Closing port written total left ⟨.write left, .ok 0⟩
        (.error (.writeStalled port written total))
  | failed (more : left ≠ []) (e : PortError) :
      Closing port written total left ⟨.write left, .error e⟩ (.error (.writeFailed port e))
  | unflushed (e : PortError) :
      Closing port written total [] ⟨.flush, .error e⟩ (.error (.writeFailed port e))
  | flushed : Closing port written total [] ⟨.flush, .ok ()⟩ (.ok ())

/-- All that the port is asked when a line is sent. -/
inductive Delivered (port : String) (wire : Bytes) :
    List Exchange → Except LinkError Unit → Prop where
  | mk (writes : Accepted wire es left)
      (closing : Closing port (es.flatMap Exchange.taken).length wire.length left last r) :
      Delivered port wire (es ++ [last]) r

/-- Pushing is writes that are taken, and one behind them if not all the bytes are. -/
theorem Pushed.accepted {port : String} {total written : Nat} {left : Bytes} {es : List Exchange}
    {r : Except LinkError Nat} (h : Pushed port total written left es r) (fair : FairPlay es) :
    ∃ writes after, Accepted left writes after ∧
      match r with
      | .ok _ => es = writes ∧ after = []
      | .error cause => ∃ last, es = writes ++ [last] ∧ after ≠ [] ∧
        ((last = ⟨.write after, .ok 0⟩ ∧
          cause = .writeStalled port (written + (writes.flatMap Exchange.taken).length) total) ∨
        ∃ e, last = ⟨.write after, .error e⟩ ∧ cause = .writeFailed port e) := by
  induction h with
  | whole => exact ⟨[], [], .nil [], rfl, rfl⟩
  | @some left written n es r more rest ih =>
    obtain ⟨hfair, hrest⟩ := FairPlay.cons_iff.mp fair
    obtain ⟨writes, after, haccepted, hr⟩ := ih hrest
    refine ⟨_, after, .cons more hfair haccepted, ?_⟩
    match r with
    | .ok _ => exact ⟨congrArg _ hr.1, hr.2⟩
    | .error cause =>
      obtain ⟨last, rfl, hafter, hlast⟩ := hr
      refine ⟨last, rfl, hafter, hlast.imp_left fun ⟨hwrite, hcause⟩ => ⟨hwrite, ?_⟩⟩
      have htaken : (left.take (n + 1)).length = n + 1 := List.length_take_of_le hfair
      rw [hcause, List.flatMap_cons, List.length_append, Exchange.taken, htaken, Nat.add_assoc]
  | @stalled left written more =>
    exact ⟨[], left, .nil left, _, rfl, more, .inl ⟨rfl, rfl⟩⟩
  | @failed left written more e =>
    exact ⟨[], left, .nil left, _, rfl, more, .inr ⟨e, rfl, rfl⟩⟩

theorem Sent.delivered {line : Line} {c : Command} {es : List Exchange}
    {r : Except LinkError Unit} (h : Sent line c es r) (fair : FairPlay es) :
    Delivered line.port c.wire (onPort es) r := by
  cases h with
  | unwritten pushed =>
    obtain ⟨writes, after, haccepted, last, rfl, hafter, hlast⟩ :=
      pushed.accepted (FairPlay.append_iff.mp fair).2
    rw [onPort_append, onPort_noted, onPort_append, haccepted.onPort, List.nil_append]
    rcases hlast with ⟨rfl, rfl⟩ | ⟨e, rfl, rfl⟩
    · have htaken := congrArg List.length haccepted.taken
      have := List.length_pos_iff.mpr hafter
      rw [List.length_append] at htaken
      rw [Nat.zero_add]
      exact .mk haccepted (.stalled hafter (by omega))
    · exact .mk haccepted (.failed hafter e)
  | unflushed pushed e =>
    simp only [FairPlay.append_iff] at fair
    obtain ⟨writes, after, haccepted, rfl, rfl⟩ := pushed.accepted fair.2.1
    rw [onPort_append, onPort_noted, onPort_append, haccepted.onPort, List.nil_append]
    exact .mk haccepted (.unflushed e)
  | whole pushed =>
    simp only [FairPlay.append_iff] at fair
    obtain ⟨writes, after, haccepted, rfl, rfl⟩ := pushed.accepted fair.2.1
    rw [onPort_append, onPort_noted, onPort_append, haccepted.onPort, List.nil_append]
    exact .mk haccepted .flushed

/-- What sending the line of a command comes to, as the port sees it. -/
structure Delivery (port : String) (c : Command) (es : List Exchange)
    (r : Except LinkError Unit) : Prop where
  /-- Each write is offered all that was not taken before it. -/
  offers : ∀ front bytes answer rest, es = front ++ ⟨.write bytes, answer⟩ :: rest →
    front.flatMap Exchange.taken ++ bytes = c.wire ∧ bytes ≠ []
  few : es.countP (·.question.call? = some .write) ≤ c.line.utf8ByteSize + 2
  whole : r = .ok () ↔ ∃ writes, es = writes ++ [⟨.flush, .ok ()⟩] ∧
    (∀ e ∈ writes, e.accepts = true) ∧ writes.flatMap Exchange.taken = c.wire
  stalled : ∀ written total, r = .error (.writeStalled port written total) ↔
    total = c.line.utf8ByteSize + 2 ∧ ∃ front bytes rest,
      es = front ++ ⟨.write bytes, .ok 0⟩ :: rest ∧
        written = (front.flatMap Exchange.taken).length
  short : ∀ p written total, r = .error (.writeStalled p written total) → written < total
  failed : ∀ e, r = .error (.writeFailed port e) ↔
    (∃ bytes, ⟨.write bytes, .error e⟩ ∈ es) ∨ ⟨.flush, .error e⟩ ∈ es
  told : ∀ cause, r = .error cause →
    (∃ written total, cause = .writeStalled port written total) ∨ ∃ e, cause = .writeFailed port e
  /-- Behind a flush, and behind a call that fails, the port is asked nothing. -/
  still : ∀ front e rest, es = front ++ e :: rest → e.question = .flush ∨ e.fails = true → rest = []

namespace Closing

variable {port : String} {written total : Nat} {left : Bytes} {last : Exchange}
  {r : Except LinkError Unit}

theorem offered (h : Closing port written total left last r) :
    ∀ bytes answer, last = ⟨.write bytes, answer⟩ → bytes = left ∧ left ≠ [] := by
  intro bytes answer hlast
  cases h with
  | stalled more | failed more =>
    cases hlast
    exact ⟨rfl, more⟩
  | unflushed | flushed => cases hlast

theorem ok_iff (h : Closing port written total left last r) :
    r = .ok () ↔ last = ⟨.flush, .ok ()⟩ := by
  cases h <;> simp

theorem stalled_iff (h : Closing port written total left last r) {n m : Nat} :
    r = .error (.writeStalled port n m) ↔
      m = total ∧ n = written ∧ ∃ bytes, last = ⟨.write bytes, .ok 0⟩ := by
  cases h <;> simp [eq_comm, and_comm]

theorem failed_iff (h : Closing port written total left last r) {e : PortError} :
    r = .error (.writeFailed port e) ↔
      (∃ bytes, last = ⟨.write bytes, .error e⟩) ∨ last = ⟨.flush, .error e⟩ := by
  cases h <;> simp [eq_comm]

theorem few (h : Closing port written total left last r) :
    [last].countP (·.question.call? = some .write) ≤ left.length := by
  cases h with
  | stalled more | failed more => exact List.length_pos_iff.mpr more
  | unflushed | flushed => exact Nat.le_refl 0

theorem told (h : Closing port written total left last r) :
    ∀ cause, r = .error cause → (∃ written total, cause = .writeStalled port written total) ∨
      ∃ e, cause = .writeFailed port e := by
  cases h <;> simp

end Closing

theorem Delivered.delivery {port : String} {c : Command} {es : List Exchange}
    {r : Except LinkError Unit} (h : Delivered port c.wire es r) : Delivery port c es r := by
  obtain @⟨es, left, last, r, writes, closing⟩ := h
  have hother : ∀ e ∈ es, (e.question = .flush || e.fails) = false := writes.unlike fun _ _ => rfl
  refine ⟨fun front bytes answer rest split => writes.offers closing.offered split, ?few, ?whole,
    ?stalled, ?short, ?failed, closing.told, ?still⟩
  case few =>
    have hwrites := writes.length_le
    rw [Command.length_wire] at hwrites
    have hbefore : es.countP (·.question.call? = some .write) ≤ es.length := List.countP_le_length
    rw [List.countP_append]
    exact (Nat.add_le_add hbefore closing.few).trans hwrites
  case whole =>
    rw [closing.ok_iff]
    constructor
    · rintro rfl
      cases closing
      exact ⟨es, rfl, writes.accepts, by simpa using writes.taken⟩
    · rintro ⟨writes', split, -, -⟩
      exact List.singleton_inj.mp (List.append_inj' split rfl).2
  case stalled =>
    intro written total
    rw [closing.stalled_iff, Command.length_wire]
    refine and_congr_right fun _ => ⟨?_, ?_⟩
    · rintro ⟨rfl, bytes, rfl⟩
      exact ⟨es, bytes, [], rfl, rfl⟩
    · rintro ⟨front, bytes, rest, split, rfl⟩
      obtain ⟨rfl, hlast, -⟩ := last_of_kind hother split rfl
      exact ⟨rfl, bytes, hlast.symm⟩
  case short =>
    rintro p written total rfl
    cases closing with
    | stalled more short => exact short
  case failed =>
    intro e
    have hmem : ∀ x : Exchange, x.fails = true → (x ∈ es ++ [last] ↔ last = x) := by
      intro x hx
      constructor
      · intro h
        obtain ⟨front, rest, split⟩ := List.append_of_mem h
        exact (last_of_kind hother split (by simp [hx])).2.1.symm
      · rintro rfl
        exact List.mem_append_right es (List.mem_singleton_self last)
    rw [closing.failed_iff, hmem _ rfl]
    simp only [hmem ⟨.write _, .error e⟩ rfl]
  case still =>
    intro front e rest split he
    exact (last_of_kind hother split (by simpa using he)).2.2

/-- Sending a line always comes to an end, however little of it the port takes at a time and
wherever it fails. -/
theorem Line.send_delivers {σ : Type} [World σ] (fair : FairPort σ) (line : Line) (c : Command)
    (w : σ) :
    let played := (line.send c).run.play w
    ∃ r, played.result = some r ∧ Delivery line.port c (onPort played.exchanges) r := by
  intro played
  obtain ⟨r, hresult, hsent⟩ := Line.send_course (Dialogue.play_transcript (line.send c).run w)
  exact ⟨r, hresult, (hsent.delivered (fair.play _ w)).delivery⟩

/-- The port takes three bytes at most, and nothing at the second write. -/
theorem stalled_send_delivers :
    let bench : Bench := { rig.modem.maxWrite := some 3, rig.faults := [((.write, 2), .nothing)] }
    let played := (Line.send ⟨"M", false⟩ ⟨"AT+é"⟩).run.play bench
    let r : Except LinkError Unit := .error (.writeStalled "M" 3 7)
    FairPort Bench ∧ played.result = some r ∧
      Delivery "M" ⟨"AT+é"⟩ (onPort played.exchanges) r := by
  intro bench played r
  have h : ((Line.send ⟨"M", false⟩ ⟨"AT+é"⟩).run.play bench).result = some r := by cbv
  obtain ⟨r', hr', hdelivery⟩ := Line.send_delivers Bench.fair ⟨"M", false⟩ ⟨"AT+é"⟩ bench
  obtain rfl := Option.some.inj (hr'.symm.trans h)
  exact ⟨Bench.fair, h, hdelivery⟩

end ModemBench
