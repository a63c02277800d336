import ModemBench.Bench.Modem
import ModemBench.Proofs.Encoding
/-!
A modem in traffic: what it makes of a line, however the writes cut it, and how much of a reply
one read gets.
-/

namespace ModemBench

/-- A command on the wire is one line, if it has no line end of its own. -/
theorem Command.wire_ends {c : Command} (hc : '\n' ∉ c.line.toList) :
    ∃ body, c.wire = body ++ [0x0A] ∧ 0x0A ∉ body := by
  refine ⟨Text.encode c.line ++ [0x0D], by simp [wire], ?_⟩
  intro h
  rcases List.mem_append.mp h with h | h
  · exact hc (Text.newline_of_mem_encode h)
  · revert h
    decide

namespace Modem

/-- No fault is set, and writes and reads may take something. -/
structure Steady (m : Modem) : Prop where
  noWriteFault : m.writeFault = none
  noLineFault : m.lineFault = none
  takes : m.maxWrite ≠ some 0
  gives : m.maxRead ≠ some 0

/-- Bytes that are taken in reach the line, the script and the replies, and nothing else. -/
theorem foldl_accept_frame (m : Modem) (bytes : Bytes) :
    ∃ waiting script underway held lines, bytes.foldl accept m =
      { m with waiting, script, underway, held, lines } := by
  induction bytes generalizing m with
  | nil => exact ⟨_, _, _, _, _, rfl⟩
  | cons b bytes ih =>
    have hone : ∃ waiting script underway held lines, m.accept b =
        { m with waiting, script, underway, held, lines } := by
      unfold accept release
      dsimp only
      split
      · split
        · exact ⟨_, _, _, _, _, rfl⟩
        · split <;> exact ⟨_, _, _, _, _, rfl⟩
      · exact ⟨_, _, _, _, _, rfl⟩
    obtain ⟨_, _, _, _, _, hb⟩ := hone
    obtain ⟨_, _, _, _, _, hbytes⟩ := ih (m.accept b)
    rw [List.foldl_cons, hbytes, hb]
    exact ⟨_, _, _, _, _, rfl⟩

theorem steady_foldl {m : Modem} (h : m.Steady) (bytes : Bytes) :
    (bytes.foldl accept m).Steady := by
  obtain ⟨_, _, _, _, _, hbytes⟩ := foldl_accept_frame m bytes
  rw [hbytes]
  exact ⟨h.1, h.2, h.3, h.4⟩

/-- The modem, had the writes cut its lines like this. -/
def withWrites (writes : List Bytes) (m : Modem) : Modem := { m with writes := writes }

theorem release_withWrites (m : Modem) (writes : List Bytes) :
    (m.withWrites writes).release = m.release.withWrites writes := by
  unfold release withWrites
  cases hs : m.script with
  | nil => simp [hs]
  | cons r rest => by_cases hr : r.delay = 0 <;> simp [hr]

theorem accept_withWrites (m : Modem) (writes : List Bytes) (b : UInt8) :
    (m.withWrites writes).accept b = (m.accept b).withWrites writes := by
  unfold accept
  by_cases hb : b = 0x0A
  · simp only [if_pos hb, ← release_withWrites]
    rfl
  · simp only [if_neg hb]
    rfl

/-- How the writes cut a line makes no difference to what the modem makes of it. -/
theorem foldl_accept_withWrites (m : Modem) (writes : List Bytes) (bytes : Bytes) :
    bytes.foldl accept (m.withWrites writes) = (bytes.foldl accept m).withWrites writes := by
  induction bytes generalizing m with
  | nil => rfl
  | cons b bytes ih => rw [List.foldl_cons, accept_withWrites, ih, List.foldl_cons]

theorem Steady.withWrites {m : Modem} (h : m.Steady) (writes : List Bytes) :
    (m.withWrites writes).Steady := ⟨h.1, h.2, h.3, h.4⟩

/-- A steady modem takes in a beginning of what it is offered, and not nothing. -/
theorem write_steady {m : Modem} (h : m.Steady) {bytes : Bytes} (more : bytes ≠ []) :
    ∃ taken writes, taken <+: bytes ∧ taken ≠ [] ∧
      m.write bytes = (.ok taken.length, (taken.foldl accept m).withWrites writes) := by
  have hfault : m.writeFault? = none := by
    simp [writeFault?, h.noWriteFault, h.noLineFault]
  unfold write
  rw [hfault]
  dsimp only
  split
  · next cap hcap =>
    refine ⟨bytes.take cap, _, List.take_prefix _ _, ?_, by rw [← foldl_accept_withWrites]; rfl⟩
    intro he
    rcases List.take_eq_nil_iff.mp he with rfl | hbytes
    · exact h.takes hcap
    · exact more hbytes
  · exact ⟨bytes, _, List.prefix_rfl, more, by rw [← foldl_accept_withWrites]; rfl⟩

theorem write_le {bytes : Bytes} {m : Modem} {n : Nat} (h : (m.write bytes).1 = .ok n) :
    n ≤ bytes.length := by
  unfold Modem.write at h
  split at h
  · cases h
  · cases h
    split
    · exact List.length_take_le' _ _
    · exact Nat.le_refl _

theorem foldl_accept {bytes : Bytes} (h : 0x0A ∉ bytes) (m : Modem) :
    bytes.foldl accept m = { m with held := bytes.reverse ++ m.held } := by
  induction bytes generalizing m with
  | nil => rfl
  | cons b bytes ih =>
    obtain ⟨hb, hbytes⟩ := List.ne_and_not_mem_of_not_mem_cons h
    have haccept : m.accept b = { m with held := b :: m.held } := by
      unfold accept
      exact if_neg (Ne.symm hb)
    rw [List.foldl_cons, haccept, ih hbytes]
    simp

/-- The modem once a command has released a reply. -/
def answering (c : Command) (reply : Bytes) (script : List Reply) (m : Modem) : Modem :=
  { m with script := script, waiting := m.waiting ++ reply, lines := m.lines ++ [c.wire] }

/-- A whole line releases the next reply of the script. -/
theorem foldl_accept_wire {m : Modem} {c : Command} {reply : Bytes} {rest : List Reply}
    (hc : '\n' ∉ c.line.toList) (hm : m.held = []) (hs : m.script = ⟨reply, 0⟩ :: rest) :
    c.wire.foldl accept m = m.answering c reply rest := by
  obtain ⟨body, hwire, hbody⟩ := c.wire_ends hc
  rw [hwire, List.foldl_append, foldl_accept hbody]
  simp [accept, release, answering, hm, hs, hwire]

/-- The most that one read of the line gets. -/
def reach (m : Modem) : Nat :=
  match m.maxRead with
  | some most => min most Line.chunkSize
  | none => Line.chunkSize

theorem Steady.reach_pos {m : Modem} (h : m.Steady) : 0 < m.reach := by
  unfold reach
  split
  · next most hmost =>
    have : most ≠ 0 := by
      rintro rfl
      exact h.gives hmost
    simp only [Line.chunkSize]
    omega
  · decide

/-- The modem with these bytes left to read. -/
def withWaiting (left : Bytes) (m : Modem) : Modem := { m with waiting := left }

theorem Steady.withWaiting {m : Modem} (h : m.Steady) (left : Bytes) :
    (m.withWaiting left).Steady := ⟨h.1, h.2, h.3, h.4⟩

theorem read_steady {m : Modem} (h : m.Steady) (more : m.waiting ≠ []) :
    m.read Line.chunkSize =
      (.ok (m.waiting.take m.reach), m.withWaiting (m.waiting.drop m.reach)) := by
  have hsome : m.waiting.take m.reach ≠ [] := by
    intro he
    rcases List.take_eq_nil_iff.mp he with hreach | hwaiting
    · exact Nat.ne_of_gt h.reach_pos hreach
    · exact more hwaiting
  unfold read
  dsimp only
  split
  · next hnone => exact absurd hnone hsome
  · rfl

end Modem

/-- How many reads of at most `reach` bytes a reply takes. -/
def readsFor (reach : Nat) (reply : Bytes) : Nat := (reply.length + reach - 1) / reach

theorem readsFor_nil {reach : Nat} (pos : 0 < reach) : readsFor reach [] = 0 := by
  rw [readsFor, List.length_nil, Nat.zero_add]
  exact Nat.div_eq_of_lt (Nat.sub_lt pos Nat.one_pos)

/-- One read less is left for what one read leaves. -/
theorem readsFor_step {reach : Nat} {reply : Bytes} (pos : 0 < reach) (more : reply ≠ []) :
    readsFor reach reply = readsFor reach (reply.drop reach) + 1 := by
  have hlength := List.length_pos_iff.mpr more
  have hone : readsFor reach reply = (reply.length - 1) / reach + 1 := by
    rw [readsFor, show reply.length + reach - 1 = reply.length - 1 + reach by omega,
      Nat.add_div_right _ pos]
  rw [hone, readsFor, List.length_drop]
  congr 1
  by_cases h : reach ≤ reply.length
  · congr 1
    omega
  · rw [Nat.div_eq_of_lt (by omega), Nat.div_eq_of_lt (by omega)]

end ModemBench
