import ModemBench.Sequence.Verdict
/-!
Replies that settle a command with their last byte, and how they settle it.
-/

namespace ModemBench

theorem Verdict.of?_eq_none_iff (reply : Bytes) :
    Verdict.of? reply = none ↔ ¬ successToken <:+: reply ∧ ¬ failureToken <:+: reply := by
  by_cases hs : successToken <:+: reply <;> by_cases hf : failureToken <:+: reply <;>
    simp [of?, hs, hf]

/-- A reply that settles a command as a whole and not before. -/
structure WholeReply (reply : Bytes) : Prop where
  ends : Verdict.successToken <:+ reply ∨ Verdict.failureToken <:+ reply
  first : ∀ p, p <+: reply → p ≠ reply →
    ¬ Verdict.successToken <:+: p ∧ ¬ Verdict.failureToken <:+: p

/-- Whether a reply ends in a refusal. -/
def refuses (reply : Bytes) : Bool := Verdict.failureToken.isSuffixOf reply

theorem refuses_iff (reply : Bytes) : refuses reply = true ↔ Verdict.failureToken <:+ reply :=
  List.isSuffixOf_iff_suffix

namespace WholeReply

variable {reply : Bytes}

/-- A token in a whole reply is its end. -/
theorem suffix_of_infix (h : WholeReply reply) {token : Bytes}
    (htoken : token = Verdict.successToken ∨ token = Verdict.failureToken)
    (hin : token <:+: reply) : token <:+ reply := by
  obtain ⟨before, after, rfl⟩ := hin
  by_cases hafter : after = []
  · exact ⟨before, by rw [hafter, List.append_nil]⟩
  · have hproper : before ++ token ≠ before ++ token ++ after := by simpa using hafter
    obtain ⟨hsuccess, hfailure⟩ := h.first (before ++ token) (List.prefix_append _ _) hproper
    rcases htoken with rfl | rfl
    · exact absurd (List.suffix_append _ _).isInfix hsuccess
    · exact absurd (List.suffix_append _ _).isInfix hfailure

theorem verdict (h : WholeReply reply) :
    Verdict.of? reply = some (if refuses reply then .failure else .success) := by
  unfold Verdict.of?
  by_cases hr : refuses reply = true
  · have hfailure := (refuses_iff reply).mp hr
    have hsuccess : ¬ Verdict.successToken <:+: reply := by
      intro hin
      have hends := h.suffix_of_infix (.inl rfl) hin
      exact absurd (List.suffix_of_suffix_length_le hends hfailure (by decide)) (by decide)
    simp [hr, hsuccess, hfailure.isInfix]
  · have hsuccess : Verdict.successToken <:+ reply := by
      rcases h.ends with hs | hf
      · exact hs
      · exact absurd ((refuses_iff reply).mpr hf) hr
    simp [hr, hsuccess.isInfix]

theorem unsettled (h : WholeReply reply) {p : Bytes} (hp : p <+: reply) (hne : p ≠ reply) :
    Verdict.of? p = none := (Verdict.of?_eq_none_iff p).mpr (h.first p hp hne)

theorem ne_nil (h : WholeReply reply) : reply ≠ [] := by
  rintro rfl
  rcases h.ends with hs | hf
  · exact absurd (List.suffix_nil.mp hs) (by decide)
  · exact absurd (List.suffix_nil.mp hf) (by decide)

theorem iff_take : WholeReply reply ↔
    (Verdict.successToken <:+ reply ∨ Verdict.failureToken <:+ reply) ∧
      ∀ n < reply.length, Verdict.of? (reply.take n) = none := by
  constructor
  · intro h
    refine ⟨h.ends, fun n hn => ?_⟩
    have hbegins : reply.take n <+: reply := List.take_prefix n reply
    refine h.unsettled hbegins ?_
    intro he
    have hlength := congrArg List.length he
    rw [List.length_take] at hlength
    omega
  · rintro ⟨ends, htake⟩
    refine ⟨ends, fun p hp hne => (Verdict.of?_eq_none_iff p).mp ?_⟩
    have hshort : p.length < reply.length :=
      Nat.lt_of_le_of_ne hp.length_le fun hl => hne (hp.eq_of_length hl)
    have hnone := htake p.length hshort
    rwa [← List.prefix_iff_eq_take.mp hp] at hnone

instance : Decidable (WholeReply reply) := decidable_of_iff _ iff_take.symm

end WholeReply

end ModemBench
