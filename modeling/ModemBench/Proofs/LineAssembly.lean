import ModemBench.Proofs.Provenance
/-!
Bytes handed to a modem write by write. What it makes of them follows from the bytes alone, not from
where the writes cut them, how much one write takes or which writes fail; and whoever goes on
offering what is left comes to the end of it.
-/

namespace ModemBench

namespace Modem

/-- What a modem has made of the bytes it took, without how they were brought. -/
def received (m : Modem) : Modem :=
  { m with writes := [], maxWrite := none, writeFault := none, lineFault := none }

theorem release_received (m : Modem) : m.received.release = m.release.received := by
  unfold release received
  cases hs : m.script with
  | nil => simp [hs]
  | cons r rest => by_cases hr : r.delay = 0 <;> simp [hr]

theorem accept_received (m : Modem) (b : UInt8) : m.received.accept b = (m.accept b).received := by
  unfold accept
  by_cases hb : b = 0x0A
  · simp only [if_pos hb, ← release_received]
    rfl
  · simp only [if_neg hb]
    rfl

theorem foldl_accept_received (m : Modem) (bytes : Bytes) :
    bytes.foldl accept m.received = (bytes.foldl accept m).received :=
  List.foldl_hom received accept_received

/-- Two modems that have made the same of the same bytes, however these were brought. -/
structure Alike (m m' : Modem) : Prop where
  lines : m.lines = m'.lines
  held : m.held = m'.held
  script : m.script = m'.script
  underway : m.underway = m'.underway
  waiting : m.waiting = m'.waiting
  maxRead : m.maxRead = m'.maxRead
  emptyReads : m.emptyReads = m'.emptyReads
  written : m.writes.flatten = m'.writes.flatten

theorem alike_iff {m m' : Modem} :
    m.Alike m' ↔ (m.received, m.writes.flatten) = (m'.received, m'.writes.flatten) := by
  constructor
  · rintro ⟨hlines, hheld, hscript, hunderway, hwaiting, hmaxRead, hemptyReads, hwritten⟩
    simp [received, *]
  · intro h
    simp only [received, Prod.mk.injEq, Modem.mk.injEq] at h
    obtain ⟨⟨hwaiting, hscript, hunderway, -, hheld, hlines, -, hmaxRead, hemptyReads, -⟩,
      hwritten⟩ := h
    exact ⟨hlines, hheld, hscript, hunderway, hwaiting, hmaxRead, hemptyReads, hwritten⟩

/-- The faults that are set. -/
def armed (m : Modem) : Nat := m.writeFault.toList.length + m.lineFault.toList.length

theorem armed_failNextWrite (m : Modem) (kind : IoKind) :
    (m.failNextWrite kind).armed ≤ m.armed + 1 := by
  simp only [armed, failNextWrite, Option.toList_some, List.length_singleton]
  omega

theorem armed_failLine (m : Modem) (line : Nat) (kind : IoKind) :
    (m.failLine line kind).armed ≤ m.armed + 1 := by
  simp only [armed, failLine, Option.toList_some, List.length_singleton]
  omega

section

variable {m m' : Modem} {bytes : Bytes}

theorem write_pos {n : Nat} (h : m.write bytes = (.ok n, m')) (takes : m.maxWrite ≠ some 0)
    (more : bytes ≠ []) : 0 < n := by
  have hmore := List.length_pos_iff.mpr more
  unfold write at h
  split at h
  · cases h
  · split at h
    · next cap hcap =>
      cases h
      have hcap : cap ≠ 0 := by
        rintro rfl
        exact takes hcap
      rw [List.length_take]
      omega
    · cases h
      exact hmore

theorem maxWrite_write {r : Except PortError Nat} (h : m.write bytes = (r, m')) :
    m'.maxWrite = m.maxWrite := by
  cases r with
  | ok n =>
    obtain ⟨_, _, _, _, _, hframe⟩ := foldl_accept_frame m (bytes.take n)
    rw [write_eq_ok h, hframe]
    rfl
  | error e => rcases write_eq_error h with ⟨_, -, -, rfl⟩ | ⟨_, _, -, -, -, rfl⟩ <;> rfl

theorem armed_of_ok {n : Nat} (h : m.write bytes = (.ok n, m')) : m'.armed = m.armed := by
  obtain ⟨_, _, _, _, _, hframe⟩ := foldl_accept_frame m (bytes.take n)
  rw [write_eq_ok h, hframe]
  rfl

theorem armed_of_error {e : PortError} (h : m.write bytes = (.error e, m')) :
    m'.armed + 1 = m.armed := by
  rcases write_eq_error h with ⟨kind, hfault, -, rfl⟩ | ⟨line, kind, hnone, hfault, -, rfl⟩
  · simp [armed, hfault, Nat.add_comm]
  · simp [armed, hnone, hfault]

end

/-- What may be done while bytes are handed over. -/
inductive Move where
  /-- Offer that many of the bytes left, or all of them where they are fewer. -/
  | offer (size : Nat)
  | limit (most : Nat)
  | failNext (kind : IoKind)
  | failLine (line : Nat) (kind : IoKind)
deriving Repr, DecidableEq

namespace Move

/-- Whether something is offered. -/
def offers : Move → Bool
  | offer size => size != 0
  | _ => false

/-- Whether a fault is set. -/
def arms : Move → Bool
  | failNext _ | failLine _ _ => true
  | _ => false

end Move

/-- A modem, and the bytes that are still to be handed over to it. -/
structure Handover where
  modem : Modem
  left : Bytes

namespace Handover

def step (h : Handover) : Move → Handover
  | .offer size =>
    match h.modem.write (h.left.take size) with
    | (.ok n, m) => ⟨m, h.left.drop n⟩
    | (.error _, m) => ⟨m, h.left⟩
  | .limit most => ⟨h.modem.limitWrites most, h.left⟩
  | .failNext kind => ⟨h.modem.failNextWrite kind, h.left⟩
  | .failLine line kind => ⟨h.modem.failLine line kind, h.left⟩

/-- What it will come to once nothing is left: what the modem has made of all bytes, and what it
was brought in all. No move changes it, for what is taken of the one is added to the other. -/
def outcome (h : Handover) : Modem × Bytes :=
  (h.left.foldl accept h.modem.received, h.modem.writes.flatten ++ h.left)

theorem outcome_step (h : Handover) (move : Move) : (h.step move).outcome = h.outcome := by
  cases move with
  | offer size =>
    unfold step
    dsimp only
    split
    · next n m hwrite =>
      have hn : n ≤ size :=
        Nat.le_trans (write_le (congrArg Prod.fst hwrite)) (List.length_take_le size h.left)
      have hm := write_eq_ok hwrite
      rw [List.take_take, Nat.min_eq_left hn] at hm
      have hreceived : m.received = (h.left.take n).foldl accept h.modem.received := by
        rw [hm, foldl_accept_received]
        rfl
      have hwritten : m.writes.flatten = h.modem.writes.flatten ++ h.left.take n := by
        rw [hm]
        simp [withWrites]
      simp only [outcome, hreceived, hwritten, ← List.foldl_append, List.append_assoc,
        List.take_append_drop]
    · next e m hwrite =>
      rcases write_eq_error hwrite with ⟨_, -, -, rfl⟩ | ⟨_, _, -, -, -, rfl⟩ <;> rfl
  | limit | failNext | failLine => rfl

theorem outcome_run (h : Handover) (moves : List Move) :
    (moves.foldl step h).outcome = h.outcome := by
  induction moves generalizing h with
  | nil => rfl
  | cons move moves ih => rw [List.foldl_cons, ih, outcome_step]

/-- A write may be limited, but not to nothing. -/
theorem takes_step {h : Handover} (takes : h.modem.maxWrite ≠ some 0) (move : Move) :
    (h.step move).modem.maxWrite ≠ some 0 := by
  cases move with
  | offer size =>
    unfold step
    dsimp only
    split
    all_goals next hwrite => rwa [maxWrite_write hwrite]
  | limit most =>
    change some (max most 1) ≠ some 0
    intro hzero
    have := Option.some.inj hzero
    omega
  | failNext | failLine => exact takes

/-- What is left only gets shorter. -/
theorem left_step (h : Handover) (move : Move) : (h.step move).left <:+ h.left := by
  cases move with
  | offer size =>
    unfold step
    dsimp only
    split
    · exact List.drop_suffix _ _
    · exact List.suffix_rfl
  | limit | failNext | failLine => exact List.suffix_rfl

theorem left_run (h : Handover) (moves : List Move) : (moves.foldl step h).left <:+ h.left := by
  induction moves generalizing h with
  | nil => exact List.suffix_rfl
  | cons move moves ih => exact (ih (h.step move)).trans (left_step h move)

/-- The offers that may still be needed: one for each byte, and one for each fault. -/
def pending (h : Handover) : Nat := h.left.length + h.modem.armed

/-- An offer takes a byte or disarms a fault. -/
theorem pending_step {h : Handover} (takes : h.modem.maxWrite ≠ some 0) (more : h.left ≠ [])
    (move : Move) :
    (h.step move).pending + [move].countP Move.offers ≤ h.pending + [move].countP Move.arms := by
  cases move with
  | offer size =>
    unfold step
    dsimp only
    split
    · next n m hwrite =>
      have hlength := List.length_pos_iff.mpr more
      have hcount : [Move.offer size].countP Move.offers ≤ n := by
        by_cases hsize : size = 0
        · simp [Move.offers, hsize]
        · have hoffered : h.left.take size ≠ [] := by simp [hsize, more]
          exact Nat.le_trans List.countP_le_length (write_pos hwrite takes hoffered)
      have hone : [Move.offer size].countP Move.offers ≤ 1 := List.countP_le_length
      simp only [pending, armed_of_ok hwrite, List.length_drop]
      omega
    · next e m hwrite =>
      have harmed := armed_of_error hwrite
      have hone : [Move.offer size].countP Move.offers ≤ 1 := List.countP_le_length
      simp only [pending]
      omega
  | limit most => exact Nat.le_refl _
  | failNext kind =>
    have harmed := h.modem.armed_failNextWrite kind
    change h.left.length + (h.modem.failNextWrite kind).armed + 0 ≤
      h.left.length + h.modem.armed + 1
    omega
  | failLine line kind =>
    have harmed := h.modem.armed_failLine line kind
    change h.left.length + (h.modem.failLine line kind).armed + 0 ≤
      h.left.length + h.modem.armed + 1
    omega

theorem left_run_eq_nil {h : Handover} {moves : List Move} (takes : h.modem.maxWrite ≠ some 0)
    (enough : h.pending + moves.countP Move.arms ≤ moves.countP Move.offers) :
    (moves.foldl step h).left = [] := by
  induction moves generalizing h with
  | nil =>
    simp only [pending, List.countP_nil] at enough
    apply List.length_eq_zero_iff.mp
    rw [List.foldl_nil]
    omega
  | cons move moves ih =>
    -- Offers of nothing may be left over once all is taken.
    by_cases more : h.left = []
    · have hsuffix := left_run h (move :: moves)
      rw [more] at hsuffix
      exact List.suffix_nil.mp hsuffix
    · have hstep := pending_step takes more move
      rw [← List.singleton_append, List.countP_append, List.countP_append] at enough
      exact ih (takes_step takes move) (by omega)

end Handover

/-- Hands bytes over by these moves. -/
def handOver (m : Modem) (bytes : Bytes) (moves : List Move) : Handover :=
  moves.foldl Handover.step ⟨m, bytes⟩

/-- Two ways of handing over the same bytes come to the same, and with enough offers each comes to
an end. A write that fails has met a fault, which it disarms, and does nothing else. -/
theorem line_assembly {m m' : Modem} (alike : m.Alike m') (bytes : Bytes)
    (moves moves' : List Move) :
    let h := m.handOver bytes moves
    let h' := m'.handOver bytes moves'
    (h.left = [] → h'.left = [] → h.modem.Alike h'.modem) ∧
    (m.maxWrite ≠ some 0 →
      bytes.length + m.armed + moves.countP Move.arms ≤ moves.countP Move.offers → h.left = []) ∧
    ∀ offered e after, m.write offered = (.error e, after) →
      (∃ kind, m.writeFault = some kind ∧ e = .ofKind kind ∧
        after = { m with writeFault := none }) ∨
      ∃ line kind, m.writeFault = none ∧ m.lineFault = some (line, kind) ∧ e = .ofKind kind ∧
        after = { m with lineFault := none } := by
  intro h h'
  refine ⟨fun hleft hleft' => ?_, fun takes enough => ?_, fun _ _ _ => write_eq_error⟩
  · have hsame : h.outcome = h'.outcome := by
      obtain ⟨hreceived, hwritten⟩ := Prod.mk.inj (alike_iff.mp alike)
      simp only [h, h', handOver, Handover.outcome_run]
      simp only [Handover.outcome, hreceived, hwritten]
    simp only [Handover.outcome, hleft, hleft', List.foldl_nil, List.append_nil] at hsame
    exact alike_iff.mpr hsame
  · exact Handover.left_run_eq_nil takes enough

/-- Two faults, and writes of two bytes, against one write of it all: the line begun is ended, and
lets a reply go. -/
theorem cut_line_assembly :
    let m : Modem :=
      { held := [0x41], script := [⟨[1], 0⟩, ⟨[2], 3⟩], maxWrite := some 2
        writeFault := some .brokenPipe, lineFault := some (2, .timedOut) }
    let m' : Modem := { m with maxWrite := none, writeFault := none, lineFault := none }
    let bytes : Bytes := [0x42, 0x0A, 0x43, 0x0A, 0x44]
    let h := m.handOver bytes (List.replicate 7 (.offer 3))
    let h' := m'.handOver bytes [.offer 5]
    m.Alike m' ∧ m.maxWrite ≠ some 0 ∧ h.left = [] ∧ h'.left = [] ∧ h.modem.Alike h'.modem := by
  intro m m' bytes h h'
  have halike : m.Alike m' := ⟨rfl, rfl, rfl, rfl, rfl, rfl, rfl, rfl⟩
  have htakes : m.maxWrite ≠ some 0 := by decide
  obtain ⟨hsame, hends, -⟩ :=
    line_assembly halike bytes (List.replicate 7 (.offer 3)) [.offer 5]
  have hleft : h.left = [] := hends htakes (by decide)
  have hleft' : h'.left = [] := by decide
  exact ⟨halike, htakes, hleft, hleft', hsame hleft hleft'⟩

end Modem

end ModemBench
