import Mathlib.Data.List.DropRight
import ModemBench.Proofs.WholeReply
/-!
Replies that grow. More bytes never take a verdict back, and of the bytes before them only the last
few count: as many as a token that is still to come may have begun with. A scanner that keeps no
more than those knows after every chunk what the whole reply says.
-/

namespace ModemBench

theorem rtake_suffix (n : Nat) (x : Bytes) : x.rtake n <:+ x := List.drop_suffix _ _

theorem length_rtake (n : Nat) (x : Bytes) : (x.rtake n).length = min n x.length := by
  unfold List.rtake
  rw [List.length_drop]
  omega

theorem suffix_rtake {back x : Bytes} {n : Nat} (h : back <:+ x) (short : back.length ≤ n) :
    back <:+ x.rtake n := by
  apply List.suffix_of_suffix_length_le h (rtake_suffix n x)
  have := h.length_le
  rw [length_rtake]
  omega

/-- What is cut off a reply does not matter for a shorter end of it. -/
theorem rtake_append {m n : Nat} (h : m ≤ n) (x y : Bytes) :
    (x.rtake n ++ y).rtake m = (x ++ y).rtake m := by
  have hend : (x.rtake n ++ y).rtake m <:+ x ++ y :=
    (rtake_suffix m _).trans (List.suffix_append_self_iff.mpr (rtake_suffix n x))
  have hlength : ((x.rtake n ++ y).rtake m).length = ((x ++ y).rtake m).length := by
    simp only [length_rtake, List.length_append]
    omega
  exact (List.suffix_of_suffix_length_le hend (rtake_suffix m _) hlength.le).eq_of_length hlength

/-- A token behind the seam needs no more of what is before it than all its bytes but one. -/
theorem infix_append_rtake {token x : Bytes} {n : Nat} (short : token.length ≤ n + 1) (y : Bytes) :
    token <:+: x ++ y ↔ token <:+: x ∨ token <:+: x.rtake n ++ y := by
  constructor
  · intro h
    rcases List.infix_append_iff.mp h with hx | hy | ⟨front, back, rfl, hfront, hback⟩
    · exact .inl hx
    · exact .inr (hy.trans (List.suffix_append _ _).isInfix)
    · cases back with
      | nil =>
        rw [List.append_nil]
        exact .inl hfront.isInfix
      | cons b back =>
        have hfew : front.length ≤ n := by
          rw [List.length_append, List.length_cons] at short
          omega
        exact .inr (List.infix_append_iff.mpr
          (.inr (.inr ⟨front, b :: back, rfl, suffix_rtake hfront hfew, hback⟩)))
  · rintro (hx | hwindow)
    · exact hx.trans (List.prefix_append _ _).isInfix
    · exact hwindow.trans (List.suffix_append_self_iff.mpr (rtake_suffix n x)).isInfix

namespace Verdict

theorem of?_eq_success_iff (reply : Bytes) :
    of? reply = some .success ↔ successToken <:+: reply := by
  by_cases hs : successToken <:+: reply <;> by_cases hf : failureToken <:+: reply <;>
    simp [of?, hs, hf]

theorem of?_eq_failure_iff (reply : Bytes) :
    of? reply = some .failure ↔ failureToken <:+: reply ∧ ¬ successToken <:+: reply := by
  by_cases hs : successToken <:+: reply <;> by_cases hf : failureToken <:+: reply <;>
    simp [of?, hs, hf]

/-- How far a reply is settled. A refusal may still be overridden, a success may not. -/
def standing : Option Verdict → Nat
  | none => 0
  | some .failure => 1
  | some .success => 2

/-- Of two verdicts on one reply the one that stands higher. -/
def higher : Option Verdict → Option Verdict → Option Verdict
  | none, v => v
  | some .failure, v => if v = some .success then v else some .failure
  | some .success, _ => some .success

theorem standing_higher (v v' : Option Verdict) :
    standing (higher v v') = max (standing v) (standing v') := by
  rcases v with _ | _ | _ <;> rcases v' with _ | _ | _ <;> rfl

/-- How many of the last bytes may belong to a token that changes a verdict: all of it but one. -/
def window : Option Verdict → Nat
  | none => 6
  | some .failure => 3
  | some .success => 0

theorem window_higher_le (v v' : Option Verdict) : window (higher v v') ≤ window v := by
  rcases v with _ | _ | _ <;> rcases v' with _ | _ | _ <;> decide

theorem of?_append_of_success {x : Bytes} (h : of? x = some .success) (y : Bytes) :
    of? (x ++ y) = some .success := by
  rw [of?_eq_success_iff] at h ⊢
  exact h.trans (List.prefix_append x y).isInfix

theorem of?_append_of_none {x : Bytes} (h : of? x = none) (y : Bytes) :
    of? (x ++ y) = of? (x.rtake 6 ++ y) := by
  obtain ⟨hs, hf⟩ := (of?_eq_none_iff x).mp h
  have hsuccess : successToken <:+: x ++ y ↔ successToken <:+: x.rtake 6 ++ y := by
    rw [infix_append_rtake (n := 6) (by decide), or_iff_right hs]
  have hfailure : failureToken <:+: x ++ y ↔ failureToken <:+: x.rtake 6 ++ y := by
    rw [infix_append_rtake (n := 6) (by decide), or_iff_right hf]
  simp only [of?, holds_iff, hsuccess, hfailure]

theorem of?_append_of_failure {x : Bytes} (h : of? x = some .failure) (y : Bytes) :
    of? (x ++ y) = some .success ↔ successToken <:+: x.rtake 3 ++ y := by
  obtain ⟨-, hs⟩ := (of?_eq_failure_iff x).mp h
  rw [of?_eq_success_iff, infix_append_rtake (n := 3) (by decide), or_iff_right hs]

/-- A look at the window and at what is new behind it raises a verdict as far as it rises. -/
theorem of?_append (x y : Bytes) :
    of? (x ++ y) = higher (of? x) (of? (x.rtake (window (of? x)) ++ y)) := by
  cases hx : of? x with
  | none => exact of?_append_of_none hx y
  | some verdict =>
    cases verdict with
    | success => exact of?_append_of_success hx y
    | failure =>
      have hrises := of?_append_of_failure hx y
      have hfailure := ((of?_eq_failure_iff x).mp hx).1.trans (List.prefix_append x y).isInfix
      rw [← of?_eq_success_iff] at hrises
      change of? (x ++ y) =
        if of? (x.rtake 3 ++ y) = some .success then of? (x.rtake 3 ++ y) else some .failure
      by_cases hseen : of? (x.rtake 3 ++ y) = some .success
      · rw [if_pos hseen, hrises.mpr hseen, hseen]
      · rw [if_neg hseen, of?_eq_failure_iff, ← of?_eq_success_iff]
        exact ⟨hfailure, mt hrises.mp hseen⟩

end Verdict

/-- A reader of chunks that keeps the verdict so far, and of the bytes no more than may count. -/
structure Scanner where
  verdict : Option Verdict := none
  kept : Bytes := []

namespace Scanner

def feed (s : Scanner) (chunk : Bytes) : Scanner :=
  let seen := s.kept ++ chunk
  let verdict := Verdict.higher s.verdict (Verdict.of? seen)
  ⟨verdict, seen.rtake (Verdict.window verdict)⟩

/-- What a scanner knows of a reply. -/
def after (reply : Bytes) : Scanner :=
  ⟨Verdict.of? reply, reply.rtake (Verdict.window (Verdict.of? reply))⟩

theorem feed_after (x chunk : Bytes) : (after x).feed chunk = after (x ++ chunk) := by
  have hverdict := Verdict.of?_append x chunk
  have hwindow := Verdict.window_higher_le (Verdict.of? x)
    (Verdict.of? (x.rtake (Verdict.window (Verdict.of? x)) ++ chunk))
  simp only [feed, after, hverdict, rtake_append hwindow]

theorem foldl_feed_after (chunks : List Bytes) (x : Bytes) :
    chunks.foldl feed (after x) = after (x ++ chunks.flatten) := by
  induction chunks generalizing x with
  | nil => simp
  | cons chunk chunks ih =>
    rw [List.foldl_cons, feed_after, ih, List.flatten_cons, List.append_assoc]

end Scanner

namespace Verdict

/-- A verdict is what the tokens in a reply say, success first. With more bytes it only rises, and
how far it rises can be told from the last six bytes before them while there is none, and from the
last three after a refusal. So a scanner that has kept no more agrees with the whole reply. -/
theorem growing_reply (x y : Bytes) :
    (of? x = some .success ↔ Text.encode "OK\r\n" <:+: x) ∧
    (of? x = some .failure ↔ Text.encode "ERROR\r\n" <:+: x ∧ ¬ Text.encode "OK\r\n" <:+: x) ∧
    (of? x = none ↔ ¬ Text.encode "OK\r\n" <:+: x ∧ ¬ Text.encode "ERROR\r\n" <:+: x) ∧
    standing (of? x) ≤ standing (of? (x ++ y)) ∧
    (of? x = none → of? (x ++ y) = of? (x.rtake 6 ++ y)) ∧
    (of? x = some .failure →
      (of? (x ++ y) = some .success ↔ Text.encode "OK\r\n" <:+: x.rtake 3 ++ y)) ∧
    ∀ chunks : List Bytes, chunks.foldl Scanner.feed {} =
      ⟨of? chunks.flatten, chunks.flatten.rtake (window (of? chunks.flatten))⟩ := by
  have hsuccess : Text.encode "OK\r\n" = successToken := by decide
  have hfailure : Text.encode "ERROR\r\n" = failureToken := by decide
  rw [hsuccess, hfailure]
  refine ⟨of?_eq_success_iff x, of?_eq_failure_iff x, of?_eq_none_iff x, ?_,
    fun h => of?_append_of_none h y, fun h => of?_append_of_failure h y, fun chunks => ?_⟩
  · rw [of?_append, standing_higher]
    exact Nat.le_max_left _ _
  · exact Scanner.foldl_feed_after chunks []

/-- Both tokens are cut by the seam: a refusal in front of its last byte, and the success behind it
in front of its second. -/
theorem cut_tokens_grow :
    let start := Text.encode "1 ERROR\r"
    let refused := Text.encode "1 ERROR\r\nO"
    of? start = none ∧ of? (start ++ [0x0A]) = of? (Text.encode "ERROR\r" ++ [0x0A]) ∧
      of? refused = some .failure ∧ of? (refused ++ Text.encode "K\r\n") = some .success := by
  intro start refused
  have hstart : of? start = none := by decide
  have hrefused : of? refused = some .failure := by decide
  obtain ⟨-, -, -, -, hnone, -⟩ := growing_reply start [0x0A]
  obtain ⟨-, -, -, -, -, hfailure, -⟩ := growing_reply refused (Text.encode "K\r\n")
  exact ⟨hstart, hnone hstart, hrefused, (hfailure hrefused).mpr ⟨[0x0D, 0x0A], [], by decide⟩⟩

/-- One byte less, and the refusal would not be seen. -/
example : of? (Text.encode "ERROR\r" ++ [0x0A]) = some .failure ∧
    of? ((Text.encode "ERROR\r").rtake 5 ++ [0x0A]) = none := by decide

end Verdict

end ModemBench
