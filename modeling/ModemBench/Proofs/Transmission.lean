import ModemBench.Proofs.Course
/-!
One transmission and the wait after it: the bytes taken and heard, how it ends, and where it is
cut off.
-/

namespace ModemBench

namespace Sequence

theorem Due.of_some {deadline : Option Nat} {es : List Exchange} {time : Nat}
    (h : Due deadline es (some (some time))) :
    ∃ duration start, deadline = some duration ∧
      es = [⟨.clock, start⟩, ⟨.tellable time, true⟩] ∧ time = start + duration * 1000 := by
  cases h with
  | @set duration now => exact ⟨duration, now, rfl, rfl, rfl⟩

/-- How a wait ends that has heard these bytes and is over. -/
def verdictOn (heard : Bytes) : Ending := (Verdict.of? heard).elim .timedOut Verdict.ending

/-- Exchanges that begin with one transmission and begin no other. -/
def Transmission (c : Command) (number : Nat) (es : List Exchange) : Prop :=
  ∃ rest, es = ⟨.note (.sending c number), ()⟩ :: rest ∧ sendings rest = []

/-- A transmission that ended because its time was over: it heard no terminal token, and the
clock had gone on by the whole deadline since the wait began. -/
structure Expired (options : RunOptions) (c : Command) (es : List Exchange) : Prop where
  silent : Verdict.of? (es.flatMap Exchange.given) = none
  late : ∃ duration before start between finish, options.deadline = some duration ∧
    es = before ++ ⟨.note (.awaiting c), ()⟩ :: ⟨.clock, start⟩ :: (between ++ [⟨.clock, finish⟩]) ∧
    start + duration * 1000 ≤ finish

namespace Gathered

variable {line : Line} {deadline : Option Nat} {received response : Bytes} {es : List Exchange}

theorem heard {ending : Ending}
    (h : Gathered line deadline received es (some (.ok (ending, response)))) :
    response = received ++ es.flatMap Exchange.given ∧ ending = verdictOn response := by
  generalize hr : some (Except.ok (ending, response)) = r at h
  induction h with
  | impatient | failed => cases hr
  | settled read token =>
    cases hr
    exact ⟨by rw [read.given], by simp [verdictOn, token]⟩
  | late read unsettled bound past =>
    cases hr
    exact ⟨by simp [read.given, Exchange.given], by simp [verdictOn, unsettled]⟩
  | again read unsettled early rest ih =>
    obtain ⟨hresponse, hending⟩ := ih hr
    exact ⟨by simpa [read.given, early.quiet.given] using hresponse, hending⟩

theorem expired
    (h : Gathered line deadline received es (some (.ok (.timedOut, response)))) :
    ∃ time between now, deadline = some time ∧ es = between ++ [⟨.clock, now⟩] ∧ time ≤ now := by
  generalize hr : some (Except.ok (Ending.timedOut, response)) = r at h
  induction h with
  | impatient | failed => cases hr
  | @settled received chunk es verdict read token => cases verdict <;> cases hr
  | late read unsettled bound past => exact ⟨_, _, _, bound, rfl, past⟩
  | @again es chunk received look es' r read unsettled early rest ih =>
    obtain ⟨time, between, now, hd, rfl, hnow⟩ := ih hr
    exact ⟨time, es ++ (look ++ between), now, hd, by simp only [List.append_assoc], hnow⟩

/-- A wait writes nothing and begins no transmission. -/
theorem idle {r : Option (Except LinkError (Ending × Bytes))}
    (h : Gathered line deadline received es r) :
    es.flatMap Exchange.taken = [] ∧ sendings es = [] := by
  induction h with
  | impatient => exact ⟨rfl, rfl⟩
  | failed read | settled read token => exact read.idle
  | late read unsettled bound past =>
    simp [read.idle, Exchange.taken, Exchange.sending?]
  | again read unsettled early rest ih =>
    simp [read.idle, early.quiet.taken, early.quiet.sendings, ih]

theorem sound {r : Option (Except LinkError (Ending × Bytes))}
    (h : Gathered line deadline received es r) (hr : ∀ cause, r ≠ some (.error cause)) :
    Sound es := by
  induction h with
  | impatient => exact .nil
  | failed read => exact absurd rfl (hr _)
  | settled read token => exact read.sound
  | late read unsettled bound past => simp [read.sound, Exchange.fails]
  | again read unsettled early rest ih =>
    simp [read.sound, early.quiet.sound, ih hr]

theorem cut {cause : LinkError} (h : Gathered line deadline received es (some (.error cause)))
    (written total : Nat) : Cut line.port written total es cause := by
  generalize hr : some (Except.error cause) = r at h
  induction h generalizing written with
  | impatient | settled | late => cases hr
  | failed read =>
    cases hr
    exact read.cut written total
  | again read unsettled early rest ih =>
    exact Cut.after read.sound (Cut.after early.quiet.sound (ih _ hr))

end Gathered

namespace Attempted

variable {line : Line} {options : RunOptions} {c : Command} {number : Nat} {es : List Exchange}

theorem transmission {r : Option (Except LinkError (Ending × Bytes))}
    (h : Attempted line options c number es r) : Transmission c number es := by
  cases h with
  | unsent send => exact ⟨_, rfl, send.sendings⟩
  | beyond send far =>
    refine ⟨_, rfl, ?_⟩
    simp [send.sendings, far.quiet.sendings, Exchange.sending?]
  | sent send set wait =>
    refine ⟨_, rfl, ?_⟩
    simp [send.sendings, set.quiet.sendings, wait.idle, Exchange.sending?]

theorem heard {ending : Ending} {response : Bytes}
    (h : Attempted line options c number es (some (.ok (ending, response)))) :
    response = es.flatMap Exchange.given ∧ ending = verdictOn response := by
  cases h with
  | sent send set wait =>
    obtain ⟨hresponse, hending⟩ := wait.heard
    refine ⟨?_, hending⟩
    simp [hresponse, send.given, set.quiet.given, Exchange.given]

theorem expired {response : Bytes}
    (h : Attempted line options c number es (some (.ok (.timedOut, response)))) :
    Expired options c es := by
  have hsilent : Verdict.of? (es.flatMap Exchange.given) = none := by
    obtain ⟨hresponse, hending⟩ := h.heard
    rw [← hresponse]
    cases hv : Verdict.of? response with
    | none => rfl
    | some verdict => cases verdict <;> simp [verdictOn, hv, Verdict.ending] at hending
  refine ⟨hsilent, ?_⟩
  cases h with
  | sent send set wait =>
    obtain ⟨time, between, finish, hd, rfl, hlate⟩ := wait.expired
    subst hd
    obtain ⟨duration, start, hduration, rfl, hdue⟩ := set.of_some
    exact ⟨duration, _ :: _, start, _ :: between, finish, hduration, rfl, hdue ▸ hlate⟩

theorem sound {r : Option (Except LinkError (Ending × Bytes))}
    (h : Attempted line options c number es r) (hr : ∀ cause, r ≠ some (.error cause)) :
    Sound es := by
  cases h with
  | unsent send => exact absurd rfl (hr _)
  | beyond send far => simp [send.sound, far.quiet.sound, Exchange.fails]
  | sent send set wait =>
    have hwait := wait.sound hr
    simp [send.sound, set.quiet.sound, hwait, Exchange.fails]

/-- A fair port has taken the whole line, unless the line was cut off. -/
theorem taken_or_cut {r : Option (Except LinkError (Ending × Bytes))}
    (h : Attempted line options c number es r) (fair : FairPlay es) :
    es.flatMap Exchange.taken = c.wire ∨
      ∃ front cause, es = ⟨.note (.sending c number), ()⟩ :: front ∧
        Sent line c front (.error cause) ∧ r = some (.error cause) := by
  cases h with
  | unsent send => exact .inr ⟨_, _, rfl, send, rfl⟩
  | beyond send far =>
    simp only [FairPlay.cons_iff, FairPlay.append_iff] at fair
    have hsend := send.taken fair.2.1
    exact .inl (by simp [hsend, far.quiet.taken, Exchange.taken])
  | sent send set wait =>
    simp only [FairPlay.cons_iff, FairPlay.append_iff] at fair
    have hsend := send.taken fair.2.1
    exact .inl (by simp [hsend, set.quiet.taken, wait.idle, Exchange.taken])

theorem taken {r : Option (Except LinkError (Ending × Bytes))}
    (h : Attempted line options c number es r) (hr : ∀ cause, r ≠ some (.error cause))
    (fair : FairPlay es) : es.flatMap Exchange.taken = c.wire :=
  (h.taken_or_cut fair).resolve_right fun ⟨_, cause, _, _, he⟩ => hr cause he

theorem taken_begins {r : Option (Except LinkError (Ending × Bytes))}
    (h : Attempted line options c number es r) (fair : FairPlay es) :
    es.flatMap Exchange.taken <+: c.wire := by
  rcases h.taken_or_cut fair with hwhole | ⟨front, cause, rfl, send, -⟩
  · exact hwhole ▸ List.prefix_rfl
  · simpa [Exchange.taken] using send.taken_begins (FairPlay.cons_iff.mp fair).2

end Attempted

end Sequence

end ModemBench
