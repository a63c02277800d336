import ModemBench.Dialogue
/-!
Transcripts: the exchanges that a dialogue may have in any world at all, and what it ends with.
What holds of every transcript holds of every run, whatever the port, the clock and the host do.
-/

namespace ModemBench

/-- One course of a dialogue, answer by answer. There is no result where it is halted. -/
inductive Transcript {α : Type} : Dialogue α → List Exchange → Option α → Prop where
  | done (a : α) : Transcript (.done a) [] (some a)
  | halted (why : Halt) : Transcript (.halted why) [] none
  | ask {q : Ask} {next : q.Answer → Dialogue α} {es : List Exchange} {r : Option α}
      (answer : q.Answer) (rest : Transcript (next answer) es r) :
      Transcript (.ask q next) (⟨q, answer⟩ :: es) r

theorem Dialogue.play_transcript {α σ : Type} [World σ] (d : Dialogue α) (w : σ) :
    Transcript d (d.play w).exchanges (d.play w).result := by
  induction d generalizing w with
  | done a => exact .done a
  | halted why => exact .halted why
  | ask q next ih => exact .ask _ (ih _ _)

namespace Transcript

variable {α β ε ε' : Type} {es : List Exchange}

theorem of_bind {d : Dialogue α} {f : α → Dialogue β} {r : Option β}
    (h : Transcript (d.bind f) es r) :
    (∃ a first second, es = first ++ second ∧ Transcript d first (some a) ∧
      Transcript (f a) second r) ∨
    (Transcript d es none ∧ r = none) := by
  induction d generalizing es with
  | done a => exact .inl ⟨a, [], es, rfl, .done a, h⟩
  | halted why =>
    cases h
    exact .inr ⟨.halted why, rfl⟩
  | ask q next ih =>
    cases h with
    | ask answer rest =>
      rcases ih answer rest with ⟨a, first, second, rfl, hd, hf⟩ | ⟨hd, rfl⟩
      · exact .inl ⟨a, _, second, rfl, .ask answer hd, hf⟩
      · exact .inr ⟨.ask answer hd, rfl⟩

/-- A step of a talk came to its end, broke off, or was halted. -/
theorem of_step {x : Talk ε α} {f : α → Talk ε β} {r : Option (Except ε β)}
    (h : Transcript (x >>= f).run es r) :
    (∃ a first second, es = first ++ second ∧ Transcript x.run first (some (.ok a)) ∧
      Transcript (f a).run second r) ∨
    (∃ e, Transcript x.run es (some (.error e)) ∧ r = some (.error e)) ∨
    (Transcript x.run es none ∧ r = none) := by
  rcases of_bind h with ⟨a, first, second, rfl, hx, hf⟩ | ⟨hx, rfl⟩
  · cases a with
    | ok a => exact .inl ⟨a, first, second, rfl, hx, hf⟩
    | error e =>
      cases hf
      rw [List.append_nil]
      exact .inr (.inl ⟨e, hx, rfl⟩)
  · exact .inr (.inr ⟨hx, rfl⟩)

/-- A step that is never halted, and of whose course `P` is known. -/
theorem of_sure_step {x : Talk ε α} {f : α → Talk ε β} {r : Option (Except ε β)}
    {P : List Exchange → Except ε α → Prop}
    (hx : ∀ {es r}, Transcript x.run es r → ∃ r', r = some r' ∧ P es r')
    (h : Transcript (x >>= f).run es r) :
    (∃ a first second, es = first ++ second ∧ P first (.ok a) ∧ Transcript (f a).run second r) ∨
    (∃ e, P es (.error e) ∧ r = some (.error e)) := by
  rcases of_step h with ⟨a, first, second, rfl, hfirst, hf⟩ | ⟨e, he, rfl⟩ | ⟨hn, rfl⟩
  · obtain ⟨r', hr, hp⟩ := hx hfirst
    cases hr
    exact .inl ⟨a, first, second, rfl, hp, hf⟩
  · obtain ⟨r', hr, hp⟩ := hx he
    cases hr
    exact .inr ⟨e, hp, rfl⟩
  · obtain ⟨r', hr, _⟩ := hx hn
    cases hr

theorem of_perform {q : Ask} {f : q.Answer → Talk ε α} {r : Option (Except ε α)}
    (h : Transcript (liftM (Dialogue.perform q) >>= f : Talk ε α).run es r) :
    ∃ answer rest, es = ⟨q, answer⟩ :: rest ∧ Transcript (f answer).run rest r := by
  cases h with
  | ask answer rest => exact ⟨answer, _, rfl, rest⟩

theorem of_perform_last {q : Ask} {r : Option (Except ε q.Answer)}
    (h : Transcript (liftM (Dialogue.perform q) : Talk ε q.Answer).run es r) :
    ∃ answer, es = [⟨q, answer⟩] ∧ r = some (.ok answer) := by
  cases h with
  | ask answer rest =>
    cases rest
    exact ⟨answer, rfl, rfl⟩

/-- A dialogue without errors, as a step of a talk. -/
theorem of_lift {d : Dialogue α} {f : α → Talk ε β} {r : Option (Except ε β)}
    (h : Transcript (liftM d >>= f : Talk ε β).run es r) :
    (∃ a first second, es = first ++ second ∧ Transcript d first (some a) ∧
      Transcript (f a).run second r) ∨
    (Transcript d es none ∧ r = none) := by
  have hrun : (liftM d >>= f : Talk ε β).run = d.bind fun a => (f a).run :=
    ExceptT.run_bind_lift d f
  rw [hrun] at h
  exact of_bind h

/-- A dialogue without errors that is never halted, as a step of a talk. -/
theorem of_sure_lift {d : Dialogue α} {f : α → Talk ε β} {r : Option (Except ε β)}
    {P : List Exchange → α → Prop}
    (hd : ∀ {es r}, Transcript d es r → ∃ r', r = some r' ∧ P es r')
    (h : Transcript (liftM d >>= f : Talk ε β).run es r) :
    ∃ a first second, es = first ++ second ∧ P first a ∧ Transcript (f a).run second r := by
  rcases of_lift h with ⟨a, first, second, rfl, hfirst, hf⟩ | ⟨hn, rfl⟩
  · obtain ⟨r', hr, hp⟩ := hd hfirst
    cases hr
    exact ⟨a, first, second, rfl, hp, hf⟩
  · obtain ⟨r', hr, _⟩ := hd hn
    cases hr

theorem of_pure {a : α} {r : Option (Except ε α)} (h : Transcript (pure a : Talk ε α).run es r) :
    es = [] ∧ r = some (.ok a) := by
  cases h
  exact ⟨rfl, rfl⟩

theorem of_throw {e : ε} {r : Option (Except ε α)}
    (h : Transcript (throw e : Talk ε α).run es r) : es = [] ∧ r = some (.error e) := by
  cases h
  exact ⟨rfl, rfl⟩

theorem of_adapt {x : Talk ε α} {g : ε → ε'} {r : Option (Except ε' α)}
    (h : Transcript (x.adapt g).run es r) :
    ∃ r', Transcript x.run es r' ∧ r = r'.map (Except.mapError g) := by
  have hx : (x.adapt g).run = x.run.bind fun a => .done (a.mapError g) := rfl
  rw [hx] at h
  rcases of_bind h with ⟨a, first, second, rfl, ha, hf⟩ | ⟨ha, rfl⟩
  · cases hf
    rw [List.append_nil]
    exact ⟨some a, ha, rfl⟩
  · exact ⟨none, ha, rfl⟩

theorem of_adapt_ok {x : Talk ε α} {g : ε → ε'} {a : α}
    (h : Transcript (x.adapt g).run es (some (.ok a))) : Transcript x.run es (some (.ok a)) := by
  obtain ⟨r, hx, hr⟩ := of_adapt h
  match r with
  | none | some (.error e) => cases hr
  | some (.ok a) =>
    cases hr
    exact hx

theorem of_adapt_error {x : Talk ε α} {g : ε → ε'} {e' : ε'}
    (h : Transcript (x.adapt g).run es (some (.error e'))) :
    ∃ e, e' = g e ∧ Transcript x.run es (some (.error e)) := by
  obtain ⟨r, hx, hr⟩ := of_adapt h
  match r with
  | none | some (.ok a) => cases hr
  | some (.error e) =>
    cases hr
    exact ⟨e, rfl, hx⟩

theorem of_adapt_none {x : Talk ε α} {g : ε → ε'} (h : Transcript (x.adapt g).run es none) :
    Transcript x.run es none := by
  obtain ⟨r, hx, hr⟩ := of_adapt h
  match r with
  | some (.ok a) | some (.error e) => cases hr
  | none => exact hx

end Transcript

end ModemBench
