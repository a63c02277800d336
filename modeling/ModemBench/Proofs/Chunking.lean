import Mathlib
import ModemBench.Proofs.Desk
import ModemBench.Proofs.WholeReply
/-!
What the cuts of a stream mean for a wait. Each token first stands complete at some place in the
stream; the wait ends with the chunk that reaches the earlier of the two places. How it ends
depends on the cuts only where a refusal stands complete before the first success.
-/

namespace ModemBench

/-- The length of the shortest beginning of the stream that holds the token. -/
def firstEnd (token stream : Bytes) : ℕ∞ :=
  match (List.range (stream.length + 1)).find? fun n => Verdict.holds token (stream.take n) with
  | some n => n
  | none => ⊤

theorem firstEnd_le_iff (token stream : Bytes) (n : Nat) :
    firstEnd token stream ≤ n ↔ token <:+: stream.take n := by
  unfold firstEnd
  constructor
  · intro h
    split at h
    · next k hk =>
      obtain ⟨hholds, -, -⟩ := List.find?_range_eq_some.mp hk
      have hle : k ≤ n := by exact_mod_cast h
      exact ((Verdict.holds_iff _ _).mp hholds).trans (List.take_prefix_take_left hle).isInfix
    · exact absurd h (by simp)
  · intro h
    have hmin : Verdict.holds token (stream.take (min n stream.length)) = true := by
      rwa [Verdict.holds_iff, ← List.take_eq_take_min]
    split
    · next k hk =>
      obtain ⟨-, -, hfirst⟩ := List.find?_range_eq_some.mp hk
      have hle : k ≤ min n stream.length := by
        by_contra hlt
        have hnot := hfirst _ (Nat.lt_of_not_le hlt)
        rw [hmin] at hnot
        cases hnot
      exact_mod_cast hle.trans (Nat.min_le_left _ _)
    · next hnone =>
      have hin : min n stream.length ∈ List.range (stream.length + 1) :=
        List.mem_range.mpr (Nat.lt_succ_of_le (Nat.min_le_right _ _))
      exact absurd hmin (List.find?_eq_none.mp hnone _ hin)

theorem firstEnd_ne_top_iff (token stream : Bytes) :
    firstEnd token stream ≠ ⊤ ↔ token <:+: stream := by
  constructor
  · intro h
    obtain ⟨n, hn⟩ := ENat.ne_top_iff_exists.mp h
    exact ((firstEnd_le_iff token stream n).mp hn.ge).trans (List.take_prefix n stream).isInfix
  · intro h
    have hle : firstEnd token stream ≤ stream.length := by
      rw [firstEnd_le_iff, List.take_length]
      exact h
    exact ne_top_of_le_ne_top (ENat.natCast_ne_top _) hle

/-- Where a token first stands complete, it has just ended. -/
theorem suffix_take_firstEnd {token stream : Bytes} {n : Nat} (h : firstEnd token stream = n)
    (some : token ≠ []) : token <:+ stream.take n := by
  have hin : token <:+: stream.take n := (firstEnd_le_iff token stream n).mp h.le
  cases n with
  | zero => exact absurd (List.infix_nil.mp hin) some
  | succ n =>
    have hbefore : ¬ token <:+: stream.take n := by
      intro hbefore
      have hle := (firstEnd_le_iff token stream n).mpr hbefore
      rw [h] at hle
      exact absurd (ENat.natCast_le_natCast.mp hle) (Nat.not_succ_le_self n)
    rw [List.take_add_one] at hin ⊢
    cases hb : stream[n]? with
    | none =>
      rw [hb] at hin
      exact absurd (by simpa using hin) hbefore
    | some b =>
      rw [hb] at hin
      exact (List.infix_concat_iff.mp hin).resolve_right hbefore

/-- Both tokens cannot first stand complete at one place. -/
theorem firstEnd_ne {stream : Bytes} (h : firstEnd Verdict.successToken stream ≠ ⊤) :
    firstEnd Verdict.successToken stream ≠ firstEnd Verdict.failureToken stream := by
  intro heq
  obtain ⟨n, hn⟩ := ENat.ne_top_iff_exists.mp h
  have hsuccess := suffix_take_firstEnd hn.symm (by decide)
  have hfailure := suffix_take_firstEnd (heq.symm.trans hn.symm) (by decide)
  exact absurd (List.suffix_of_suffix_length_le hsuccess hfailure (by decide)) (by decide)

theorem Verdict.of?_take (stream : Bytes) (n : Nat) :
    Verdict.of? (stream.take n) =
      if firstEnd successToken stream ≤ n then some .success
      else if firstEnd failureToken stream ≤ n then some .failure else none := by
  simp only [of?, holds_iff, firstEnd_le_iff]

/-- Reads of the line give these chunks one after another. A chunk may be empty. -/
inductive Delivers {σ : Type} [World σ] (line : Line) : σ → List Bytes → σ → Prop where
  | nil (w : σ) : Delivers line w [] w
  | cons (read : Reaches line.receive w chunk w') (rest : Delivers line w' chunks w'') :
      Delivers line w (chunk :: chunks) w''

/-- The bytes that the first `n` chunks hold, which is where the stream is cut behind them. -/
def arrived (chunks : List Bytes) (n : Nat) : Nat := (chunks.take n).flatten.length

theorem arrived_mono (chunks : List Bytes) {m n : Nat} (h : m ≤ n) :
    arrived chunks m ≤ arrived chunks n := by
  obtain ⟨more, hmore⟩ := List.take_prefix_take_left (l := chunks) h
  rw [arrived, arrived, ← hmore, List.flatten_append, List.length_append]
  exact Nat.le_add_right _ _

theorem flatten_take (chunks : List Bytes) (n : Nat) :
    (chunks.take n).flatten = chunks.flatten.take (arrived chunks n) := by
  have hparts : (chunks.take n).flatten ++ (chunks.drop n).flatten = chunks.flatten := by
    rw [← List.flatten_append, List.take_append_drop]
  rw [← hparts, arrived, List.take_left]

/-- How a wait has to end if success and failure first stand complete at `s` and at `e`. -/
structure Foreseen (s e : ℕ∞) (chunks : List Bytes) (ending : Ending) : Prop where
  settled : ending = .success ∨ ending = .failure
  success : s < e → ending = .success
  failure : s = ⊤ → ending = .failure
  either : e < s → s ≠ ⊤ →
    (ending = .success ↔ ∀ n, ¬ (e ≤ arrived chunks n ∧ (arrived chunks n : ℕ∞) < s))

/-- The chunk that reaches the first token decides, by what it reaches besides. -/
theorem foreseen {s e : ℕ∞} {chunks : List Bytes} {n : Nat} {verdict : Verdict}
    (before : (arrived chunks n : ℕ∞) < min s e)
    (reached : (if s ≤ arrived chunks (n + 1) then some .success
      else if e ≤ arrived chunks (n + 1) then some .failure else none) = some verdict) :
    min s e ≤ arrived chunks (n + 1) ∧ Foreseen s e chunks verdict.ending := by
  obtain ⟨hs, he⟩ := lt_min_iff.mp before
  split at reached
  · next hsuccess =>
    cases reached
    refine ⟨min_le_of_left_le hsuccess, .inl rfl, fun _ => rfl, ?_, ?_⟩
    · rintro rfl
      exact absurd (top_le_iff.mp hsuccess) (ENat.natCast_ne_top _)
    · intro hlt htop
      refine ⟨fun _ m => ?_, fun _ => rfl⟩
      rintro ⟨hm, hm'⟩
      -- A cut lies before the chunk that reaches the refusal, or behind the success.
      rcases Nat.lt_or_ge n m with hnm | hmn
      · have := ENat.natCast_le_natCast.mpr (arrived_mono chunks hnm)
        exact absurd (hsuccess.trans this) hm'.not_ge
      · have := ENat.natCast_le_natCast.mpr (arrived_mono chunks hmn)
        exact absurd (this.trans_lt he) hm.not_gt
  · next hsuccess =>
    split at reached
    · next hfailure =>
      cases reached
      refine ⟨min_le_of_right_le hfailure, .inr rfl, ?_, fun _ => rfl, ?_⟩
      · intro hlt
        exact absurd (hlt.le.trans hfailure) hsuccess
      · intro hlt htop
        refine ⟨fun h => (by cases h), fun h => ?_⟩
        exact absurd ⟨hfailure, not_le.mp hsuccess⟩ (h (n + 1))
    · cases reached

namespace Sequence

variable {σ : Type} [World σ] {line : Line}

/-- A wait goes on until what it has received holds a token. -/
theorem gather_delivers {patience : Nat} {received : Bytes} {chunks : List Bytes} {w w' : σ}
    (delivers : Delivers line w chunks w') (fresh : Verdict.of? received = none)
    (token : Verdict.of? (received ++ chunks.flatten) ≠ none) (patient : chunks.length ≤ patience) :
    ∃ before chunk after verdict mid, chunks = before ++ chunk :: after ∧
      Verdict.of? (received ++ before.flatten) = none ∧
      Verdict.of? (received ++ (before ++ [chunk]).flatten) = some verdict ∧
      Delivers line w (before ++ [chunk]) mid ∧ Delivers line mid after w' ∧
      Reaches (gather line none patience received) w
        (verdict.ending, received ++ (before ++ [chunk]).flatten) mid := by
  induction delivers generalizing received patience with
  | nil =>
    rw [List.flatten_nil, List.append_nil] at token
    exact absurd fresh token
  | @cons w chunk w' chunks w'' read rest ih =>
    obtain ⟨patience, rfl⟩ :=
      Nat.exists_eq_succ_of_ne_zero (Nat.ne_of_gt (Nat.lt_of_lt_of_le (Nat.succ_pos _) patient))
    cases hv : Verdict.of? (received ++ chunk) with
    | some verdict =>
      refine ⟨[], chunk, chunks, verdict, w', rfl, by simpa using fresh, by simpa using hv,
        .cons read (.nil _), rest, ?_⟩
      refine read.bind ?_
      simp only [hv, List.nil_append, List.flatten_cons, List.flatten_nil, List.append_nil]
      exact Reaches.done _ _
    | none =>
      rw [List.flatten_cons, ← List.append_assoc] at token
      obtain ⟨before, next, after, verdict, mid, rfl, hbefore, hsettled, hread, hafter, hgather⟩ :=
        ih hv token (Nat.le_of_succ_le_succ patient)
      refine ⟨chunk :: before, next, after, verdict, mid, rfl, ?_, ?_, .cons read hread, hafter, ?_⟩
      · simpa using hbefore
      · simpa using hsettled
      · refine read.bind ?_
        simp only [hv]
        have hearly : Reaches (liftM (overdue none) : Talk LinkError Bool) w' false w' := ⟨rfl, rfl⟩
        refine hearly.bind ?_
        simpa using hgather

/-- The wait ends with the read that brings the first token, and as that read's chunk has it. -/
theorem gather_foreseen {patience : Nat} {chunks : List Bytes} {w w' : σ}
    (delivers : Delivers line w chunks w')
    (token : firstEnd Verdict.successToken chunks.flatten ≠ ⊤ ∨
      firstEnd Verdict.failureToken chunks.flatten ≠ ⊤) (patient : chunks.length ≤ patience) :
    let s := firstEnd Verdict.successToken chunks.flatten
    let e := firstEnd Verdict.failureToken chunks.flatten
    ∃ n ending mid, (arrived chunks n : ℕ∞) < min s e ∧ min s e ≤ arrived chunks (n + 1) ∧
      Delivers line w (chunks.take (n + 1)) mid ∧ Delivers line mid (chunks.drop (n + 1)) w' ∧
      Reaches (gather line none patience []) w (ending, (chunks.take (n + 1)).flatten) mid ∧
      Foreseen s e chunks ending := by
  intro s e
  have hsome : Verdict.of? ([] ++ chunks.flatten) ≠ none := by
    rw [firstEnd_ne_top_iff, firstEnd_ne_top_iff] at token
    rw [List.nil_append, ne_eq, Verdict.of?_eq_none_iff]
    tauto
  have hnone : Verdict.of? [] = none := rfl
  obtain ⟨before, chunk, after, verdict, mid, hchunks, hfresh, hsettled, hread, hafter, hgather⟩ :=
    gather_delivers delivers hnone hsome patient
  have hlength : before.length + 1 = (before ++ [chunk]).length := by simp
  have htake : chunks.take (before.length + 1) = before ++ [chunk] := by
    rw [hchunks, List.append_cons, hlength, List.take_left]
  have hdrop : chunks.drop (before.length + 1) = after := by
    rw [hchunks, List.append_cons, hlength, List.drop_left]
  have hbefore : chunks.take before.length = before := by rw [hchunks, List.take_left]
  rw [List.nil_append] at hfresh hsettled hgather
  rw [← hbefore, flatten_take, Verdict.of?_take] at hfresh
  rw [← htake, flatten_take, Verdict.of?_take] at hsettled
  rw [← htake] at hread hgather
  rw [← hdrop] at hafter
  have hlt : (arrived chunks before.length : ℕ∞) < min s e := by
    split at hfresh
    · cases hfresh
    · split at hfresh
      · cases hfresh
      · exact lt_min (not_le.mp ‹_›) (not_le.mp ‹_›)
  obtain ⟨hreached, hforeseen⟩ := foreseen hlt hsettled
  exact ⟨before.length, verdict.ending, mid, hlt, hreached, hread, hafter, hgather, hforeseen⟩

/-- Two waits on one stream, cut in different ways. -/
theorem ending_eq {τ : Type} [World τ] {line' : Line} {patience patience' : Nat}
    {chunks chunks' : List Bytes} {w w' mid : σ} {v v' mid' : τ} {ending ending' : Ending}
    {response response' : Bytes} (delivers : Delivers line w chunks w')
    (delivers' : Delivers line' v chunks' v') (same : chunks'.flatten = chunks.flatten)
    (token : firstEnd Verdict.successToken chunks.flatten ≠ ⊤ ∨
      firstEnd Verdict.failureToken chunks.flatten ≠ ⊤)
    (patient : chunks.length ≤ patience) (patient' : chunks'.length ≤ patience')
    (first : ¬ firstEnd Verdict.failureToken chunks.flatten <
      firstEnd Verdict.successToken chunks.flatten)
    (h : Reaches (gather line none patience []) w (ending, response) mid)
    (h' : Reaches (gather line' none patience' []) v (ending', response') mid') :
    ending' = ending := by
  obtain ⟨_, found, _, _, _, _, _, hgather, hforeseen⟩ := gather_foreseen delivers token patient
  rw [← same] at token
  obtain ⟨_, found', _, _, _, _, _, hgather', hforeseen'⟩ :=
    gather_foreseen delivers' token patient'
  obtain ⟨rfl, -⟩ := Prod.mk.inj (h.value_eq hgather)
  obtain ⟨rfl, -⟩ := Prod.mk.inj (h'.value_eq hgather')
  rw [same] at hforeseen' token
  have hle := not_lt.mp first
  have htop : firstEnd Verdict.successToken chunks.flatten ≠ ⊤ := by
    intro htop
    rw [htop, top_le_iff] at hle
    tauto
  have hlt := lt_of_le_of_ne hle (firstEnd_ne htop)
  rw [hforeseen.success hlt, hforeseen'.success hlt]

/-- A wait without a deadline on a stream that holds a token, however the stream is cut: it ends
with the first read after which a token stands complete, hears all bytes up to there, and ends as
the places of the tokens and of the cuts foresee. Two waits on one stream end differently only if
a refusal stands complete before the first success. -/
theorem gather_chunked {patience : Nat} {chunks : List Bytes} {w w' : σ}
    (delivers : Delivers line w chunks w')
    (token : firstEnd Verdict.successToken chunks.flatten ≠ ⊤ ∨
      firstEnd Verdict.failureToken chunks.flatten ≠ ⊤) (patient : chunks.length ≤ patience) :
    let s := firstEnd Verdict.successToken chunks.flatten
    let e := firstEnd Verdict.failureToken chunks.flatten
    ∃ n ending mid, (arrived chunks n : ℕ∞) < min s e ∧ min s e ≤ arrived chunks (n + 1) ∧
      Delivers line w (chunks.take (n + 1)) mid ∧ Delivers line mid (chunks.drop (n + 1)) w' ∧
      Reaches (gather line none patience []) w (ending, (chunks.take (n + 1)).flatten) mid ∧
      Foreseen s e chunks ending ∧
      ∀ {τ : Type} [World τ] {line' : Line} {patience' : Nat} {chunks' : List Bytes}
        {v v' mid' : τ} {ending' : Ending} {response : Bytes}, Delivers line' v chunks' v' →
        chunks'.flatten = chunks.flatten → chunks'.length ≤ patience' →
        Reaches (gather line' none patience' []) v (ending', response) mid' →
        ending' ≠ ending → e < s := by
  intro s e
  obtain ⟨n, ending, mid, hlt, hreached, hread, hafter, hgather, hforeseen⟩ :=
    gather_foreseen delivers token patient
  refine ⟨n, ending, mid, hlt, hreached, hread, hafter, hgather, hforeseen, ?_⟩
  intro τ _ line' patience' chunks' v v' mid' ending' response delivers' same patient' hother hne
  by_contra hfirst
  exact hne (ending_eq delivers delivers' same token patient patient' hfirst hgather hother)

/-- The reply comes after an empty read, and is cut within the success behind its refusal. -/
theorem cut_reply_chunked :
    let stream := Verdict.failureToken ++ Verdict.successToken
    let chunks := [[], stream.take 8, stream.drop 8]
    let desk : Desk :=
      ⟨{ underway := [⟨stream, 1⟩], maxRead := some 8 }, fun _ _ => 0, fun _ => 0, 0⟩
    firstEnd Verdict.failureToken chunks.flatten = (7 : Nat) ∧
      firstEnd Verdict.successToken chunks.flatten = (11 : Nat) ∧
      ∃ left, Delivers ⟨"M", false⟩ desk chunks left ∧
        ∃ n mid, Reaches (gather ⟨"M", false⟩ none 3 []) desk
          (.failure, (chunks.take (n + 1)).flatten) mid := by
  intro stream chunks desk
  have he : firstEnd Verdict.failureToken chunks.flatten = (7 : Nat) := by decide
  have hs : firstEnd Verdict.successToken chunks.flatten = (11 : Nat) := by decide
  have hdelivers : Delivers ⟨"M", false⟩ desk chunks _ :=
    .cons ⟨rfl, rfl⟩ (.cons ⟨rfl, rfl⟩ (.cons ⟨rfl, rfl⟩ (.nil _)))
  refine ⟨he, hs, _, hdelivers, ?_⟩
  obtain ⟨n, ending, mid, _, _, _, _, hgather, hforeseen, _⟩ :=
    gather_chunked hdelivers (.inr (he ▸ ENat.natCast_ne_top 7)) (Nat.le_refl 3)
  rw [he, hs] at hforeseen
  have hcut : arrived chunks 2 = 8 := rfl
  have hsuccess : ending ≠ .success := by
    intro hsuccess
    have hnone := (hforeseen.either (by decide) (ENat.natCast_ne_top _)).mp hsuccess 2
    rw [hcut] at hnone
    exact hnone (by decide)
  obtain rfl := hforeseen.settled.resolve_left hsuccess
  exact ⟨n, mid, hgather⟩

end Sequence

end ModemBench
