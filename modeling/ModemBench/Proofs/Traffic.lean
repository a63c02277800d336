import Mathlib.Algebra.GroupWithZero.Nat
import ModemBench.Bench.Rig
import ModemBench.Dialogue
/-!
What exchanges show from outside: the bytes that the port took and gave, the transmissions that
were started, and the calls that fail a run.
-/

namespace ModemBench

/-- The call of the port that a question is, if it is one. -/
def Ask.call? : Ask → Option PortCall
  | write _ => some .write
  | flush => some .flush
  | read _ => some .read
  | clear => some .clear
  | _ => none

namespace Exchange

/-- The bytes that the port took. -/
def taken : Exchange → Bytes
  | ⟨.write bytes, .ok n⟩ => bytes.take n
  | _ => []

/-- How many bytes the port said it took. -/
def amount : Exchange → Nat
  | ⟨.write _, .ok n⟩ => n
  | _ => 0

/-- The bytes that the port gave. -/
def given : Exchange → Bytes
  | ⟨.read _, .ok bytes⟩ => bytes
  | _ => []

/-- A transmission that begins: its command and its number among those of the command. -/
def sending? : Exchange → Option (Command × Nat)
  | ⟨.note (.sending c number), _⟩ => some (c, number)
  | _ => none

/-- Whether this is a call of the port that fails a run. A read that only came to the end of its
time does not. -/
def fails : Exchange → Bool
  | ⟨.write _, .ok n⟩ => n == 0
  | ⟨.write _, .error _⟩ | ⟨.flush, .error _⟩ | ⟨.clear, .error _⟩ => true
  | ⟨.read _, .error e⟩ => !e.isReadTimeout
  | _ => false

/-- The port takes no more than it is offered. -/
def Fair : Exchange → Prop
  | ⟨.write bytes, .ok n⟩ => n ≤ bytes.length
  | _ => True

/-- The error of the link that a failing call stands for, after `written` of `total` bytes. -/
def cause? (port : String) (written total : Nat) : Exchange → Option LinkError
  | ⟨.write _, .error e⟩ | ⟨.flush, .error e⟩ => some (.writeFailed port e)
  | ⟨.write _, .ok 0⟩ => some (.writeStalled port written total)
  | ⟨.read _, .error e⟩ => if e.isReadTimeout then none else some (.readFailed port e)
  | ⟨.clear, .error e⟩ => some (.readFailed port e)
  | _ => none

theorem isSome_cause? (port : String) (written total : Nat) (e : Exchange) :
    (e.cause? port written total).isSome = e.fails := by
  rcases e with ⟨q, answer⟩
  cases q <;> try rfl
  case write => rcases answer with _ | _ | _ <;> rfl
  case flush => cases answer <;> rfl
  case clear => cases answer <;> rfl
  case read =>
    cases answer with
    | ok => rfl
    | error e => cases he : e.isReadTimeout <;> simp [cause?, fails, he]

end Exchange

/-- No call among the exchanges fails. -/
def Sound (es : List Exchange) : Prop := ∀ e ∈ es, e.fails = false

@[simp] theorem Sound.nil : Sound [] := by simp [Sound]

@[simp] theorem Sound.cons_iff {e : Exchange} {es : List Exchange} :
    Sound (e :: es) ↔ e.fails = false ∧ Sound es := by
  simp [Sound]

@[simp] theorem Sound.append_iff {es es' : List Exchange} :
    Sound (es ++ es') ↔ Sound es ∧ Sound es' := by
  simp [Sound, or_imp, forall_and]

theorem Sound.note (entry : Note) : Sound [⟨.note entry, ()⟩] := by simp [Exchange.fails]

/-- No write among the exchanges takes more than it is offered. -/
def FairPlay (es : List Exchange) : Prop := ∀ e ∈ es, e.Fair

theorem FairPlay.cons_iff {e : Exchange} {es : List Exchange} :
    FairPlay (e :: es) ↔ e.Fair ∧ FairPlay es := by
  simp [FairPlay]

theorem FairPlay.append_iff {es es' : List Exchange} :
    FairPlay (es ++ es') ↔ FairPlay es ∧ FairPlay es' := by
  simp [FairPlay, or_imp, forall_and]

/-- Exchanges up to a call that fails, and the error it stands for. The transmission under way has
`total` bytes, of which `written` were taken before. -/
structure Cut (port : String) (written total : Nat) (es : List Exchange) (cause : LinkError) :
    Prop where
  split : ∃ during last, es = during ++ [last] ∧ Sound during ∧
    last.cause? port (written + (during.map Exchange.amount).sum) total = some cause
  short : ∀ p w t, cause = .writeStalled p w t → w < t

theorem Cut.after {port : String} {written total : Nat} {before es : List Exchange}
    {cause : LinkError} (hs : Sound before)
    (h : Cut port (written + (before.map Exchange.amount).sum) total es cause) :
    Cut port written total (before ++ es) cause := by
  obtain ⟨⟨during, last, rfl, hd, hc⟩, hshort⟩ := h
  refine ⟨⟨before ++ during, last, by simp, by simp [hs, hd], ?_⟩, hshort⟩
  simpa [Nat.add_assoc] using hc

/-- The transmissions begun, in order. -/
def sendings (es : List Exchange) : List (Command × Nat) := es.filterMap Exchange.sending?

@[simp] theorem sendings_nil : sendings [] = [] := rfl

@[simp] theorem sendings_cons (e : Exchange) (es : List Exchange) :
    sendings (e :: es) = e.sending?.toList ++ sendings es := by
  cases he : e.sending? <;> simp [sendings, he]

@[simp] theorem sendings_append (es es' : List Exchange) :
    sendings (es ++ es') = sendings es ++ sendings es' := List.filterMap_append

/-- The exchanges of a note that is taken only sometimes. -/
def noted (b : Bool) (entry : Note) : List Exchange :=
  if b then [⟨.note entry, ()⟩] else []

@[simp] theorem sound_noted (b : Bool) (entry : Note) : Sound (noted b entry) := by
  cases b <;> simp [noted, Exchange.fails]

@[simp] theorem taken_noted (b : Bool) (entry : Note) :
    (noted b entry).flatMap Exchange.taken = [] := by
  cases b <;> simp [noted, Exchange.taken]

@[simp] theorem amount_noted (b : Bool) (entry : Note) :
    ((noted b entry).map Exchange.amount).sum = 0 := by
  cases b <;> simp [noted, Exchange.amount]

@[simp] theorem given_noted (b : Bool) (entry : Note) :
    (noted b entry).flatMap Exchange.given = [] := by
  cases b <;> simp [noted, Exchange.given]

theorem sendings_noted {b : Bool} {entry : Note}
    (h : Exchange.sending? ⟨.note entry, ()⟩ = none) : sendings (noted b entry) = [] := by
  cases b <;> simp [noted, h]

/-- Exchanges that the port has no part in, and that begin no transmission. -/
structure Quiet (es : List Exchange) : Prop where
  sound : Sound es
  taken : es.flatMap Exchange.taken = []
  given : es.flatMap Exchange.given = []
  sendings : sendings es = []

theorem Quiet.nil : Quiet [] := ⟨.nil, rfl, rfl, rfl⟩

theorem Quiet.clock (now : Nat) : Quiet [⟨.clock, now⟩] :=
  ⟨by simp [Exchange.fails], rfl, rfl, rfl⟩

theorem Quiet.deadline (now time : Nat) (possible : Bool) :
    Quiet [⟨.clock, now⟩, ⟨.tellable time, possible⟩] :=
  ⟨by simp [Exchange.fails], rfl, rfl, rfl⟩

end ModemBench
