import ModemBench.Proofs.Transcript
/-!
Expansions: dialogues whose questions are answered by dialogues of their own. What is exchanged is
what the dialogue itself exchanges, with every question taken apart.
-/

namespace ModemBench

theorem Transcript.of_perform_only {q : Ask} {es : List Exchange} {r : Option q.Answer}
    (h : Transcript (Dialogue.perform q) es r) :
    ∃ answer, es = [⟨q, answer⟩] ∧ r = some answer := by
  cases h with
  | ask answer rest =>
    cases rest
    exact ⟨answer, rfl, rfl⟩

/-- The exchanges of a dialogue, and those of the dialogues that answered its questions. -/
inductive Expanded (f : (q : Ask) → Dialogue q.Answer) : List Exchange → List Exchange → Prop where
  | nil : Expanded f [] []
  | cons {e : Exchange} {es inner outer : List Exchange}
      (answered : Transcript (f e.question) es (some e.answer)) (rest : Expanded f inner outer) :
      Expanded f (e :: inner) (es ++ outer)

/-- As long as all questions are answered, expanding makes no difference to the end. -/
theorem Transcript.of_expand {α : Type} {f : (q : Ask) → Dialogue q.Answer} {d : Dialogue α}
    {outer : List Exchange} {r : Option α} (ends : ∀ q es, ¬ Transcript (f q) es none)
    (h : Transcript (d.expand f) outer r) :
    ∃ inner, Transcript d inner r ∧ Expanded f inner outer := by
  induction d generalizing outer with
  | done a =>
    cases h
    exact ⟨[], .done a, .nil⟩
  | halted why =>
    cases h
    exact ⟨[], .halted why, .nil⟩
  | ask q next ih =>
    rcases of_bind h with ⟨answer, first, second, rfl, hfirst, hrest⟩ | ⟨hnone, -⟩
    · obtain ⟨inner, hd, hrest⟩ := ih answer hrest
      exact ⟨⟨q, answer⟩ :: inner, .ask answer hd, .cons hfirst hrest⟩
    · exact absurd hnone (ends q outer)

namespace Expanded

variable {f : (q : Ask) → Dialogue q.Answer} {first second inner outer : List Exchange}

theorem of_append (h : Expanded f (first ++ second) outer) :
    ∃ before after, outer = before ++ after ∧ Expanded f first before ∧
      Expanded f second after := by
  induction first generalizing outer with
  | nil => exact ⟨[], outer, rfl, .nil, h⟩
  | cons e first ih =>
    cases h with
    | cons answered rest =>
      obtain ⟨before, after, rfl, hfirst, hsecond⟩ := ih rest
      exact ⟨_, after, (List.append_assoc ..).symm, .cons answered hfirst, hsecond⟩

/-- Questions that are passed on leave the exchanges as they are. -/
theorem same (h : Expanded f inner outer)
    (passed : ∀ e ∈ inner, f e.question = .perform e.question) : outer = inner := by
  induction h with
  | nil => rfl
  | @cons e es inner outer answered rest ih =>
    obtain ⟨he, hinner⟩ := List.forall_mem_cons.mp passed
    rw [he] at answered
    obtain ⟨answer, rfl, hanswer⟩ := Transcript.of_perform_only answered
    cases hanswer
    rw [ih hinner]
    rfl

/-- A question that is passed on is among the exchanges as it is. -/
theorem mem {e : Exchange} (h : Expanded f inner outer) (he : e ∈ inner)
    (passed : f e.question = .perform e.question) : e ∈ outer := by
  induction h with
  | nil => cases he
  | @cons first es inner outer answered rest ih =>
    rcases List.mem_cons.mp he with rfl | hrest
    · rw [passed] at answered
      obtain ⟨answer, rfl, hanswer⟩ := Transcript.of_perform_only answered
      cases hanswer
      exact List.mem_append_left _ (List.mem_singleton_self e)
    · exact List.mem_append_right _ (ih hrest)

/-- What is made up of its parts and is the same of every question taken apart is the same of the
whole. -/
theorem image {γ : Type} {m : List Exchange → γ} (op : γ → γ → γ)
    (append : ∀ es es', m (es ++ es') = op (m es) (m es')) (h : Expanded f inner outer)
    (same : ∀ q es answer, Transcript (f q) es (some answer) → m es = m [⟨q, answer⟩]) :
    m outer = m inner := by
  induction h with
  | nil => rfl
  | @cons e es inner outer answered rest ih =>
    calc m (es ++ outer) = op (m es) (m outer) := append _ _
      _ = op (m [e]) (m inner) := by rw [same _ _ _ answered, ih]
      _ = m (e :: inner) := (append [e] inner).symm

end Expanded

end ModemBench
